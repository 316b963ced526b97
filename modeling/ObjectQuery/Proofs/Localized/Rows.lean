import ObjectQuery.Proofs.Localized.Rank
import ObjectQuery.Proofs.Meaning.Filter
import ObjectQuery.Proofs.Meaning.Item

/-! Localized rows under a locale condition and in the item of a locale column. The condition leaves
the rows that may be shown, and the item takes the greatest of their values, each with its code in
front. -/

namespace ObjectQuery

/-- A row of localized values, in the place of the entity that has the attribute of a column. -/
structure LocalizedRow where
  locale : Option String
  value : String
  elsewhere : Valuation

def LocalizedRow.valuation (names : Conventions) (p : ResolvedPath) (row : LocalizedRow) :
    Valuation where
  valueOf owner field :=
    if owner = p.owner ∧ field = names.localeField then row.locale.elim .null .string
    else if owner = p.owner ∧ field = p.field then .string row.value
    else row.elsewhere.valueOf owner field
  truthOf := row.elsewhere.truthOf

namespace LocalizedRow

variable {names : Conventions} {p : ResolvedPath} (row : LocalizedRow)

@[simp] theorem valueOf_localeField :
    (row.valuation names p).valueOf p.owner names.localeField = row.locale.elim .null .string := by
  simp [valuation]

theorem valueOf_field (h : p.field ≠ names.localeField) :
    (row.valuation names p).valueOf p.owner p.field = .string row.value := by
  simp [valuation, h]

end LocalizedRow

def Store.ComparesTexts (store : Store) : Prop :=
  ∀ x y, store.compare .eq (.string x) (.string y) = decide (x = y)

theorem Store.membership_eq_yes {store : Store} (hs : store.ComparesTexts) {x : String}
    {codes : List String} :
    store.membership (.string x) (codes.map .string) = .yes ↔ x ∈ codes := by
  have hcomparison : (codes.map .string).map (store.comparison .eq (.string x)) =
      (codes.map fun code => decide (x = code)).map .ofBool := by
    rw [List.map_map, List.map_map]
    refine List.map_congr_left fun code _ => ?_
    simp [Store.comparison, Value.isNull, hs x code]
  rw [Store.membership, hcomparison, Truth.any_ofBool, Truth.ofBool_eq_yes]
  simp

/-- The rows that are left have a code of the locale or none. -/
theorem truth?_localeCondition {store : Store} (hs : store.ComparesTexts) {names : Conventions}
    {l : Locale} {owner root : String} {b final : Bindings} {v : Valuation}
    {locale : Option String} (hl : v.valueOf owner names.localeField = locale.elim .null .string)
    (hb : (localeCondition names l.fallback owner b).2.entries <+: final.entries) :
    (localeCondition names l.fallback owner b).1.truth? store v root final = some .yes ↔
      locale ∈ l.ranks := by
  cases hc : l.fallback.isEmpty with
  | true =>
    have hnil : l.fallback = [] := by simpa using hc
    have hnull : (localeCondition names l.fallback owner b).1 =
        .paren (.isNull false (.column owner names.localeField)) := by simp [localeCondition, hc]
    rw [hnull, Locale.ranks, hnil]
    cases locale <;> simp [Expr.truth?, Expr.value?, hl, Value.isNull, Truth.ofBool]
  | false =>
    simp only [localeCondition, hc] at hb ⊢
    have hlist := Bindings.list?_bind hb
    cases locale with
    | none =>
      simp [Expr.truth?, Expr.truths?, Expr.value?, hl, hlist, Value.isNull, Truth.ofBool,
        Truth.any_pair_yes, Locale.ranks]
    | some x =>
      simp [Expr.truth?, Expr.truths?, Expr.value?, hl, hlist, Value.isNull, Truth.ofBool,
        Truth.any_pair_no, Store.membership_eq_yes hs, Locale.ranks]

def rowsWhere (store : Store) (names : Conventions) (p : ResolvedPath) (root : String)
    (b : Bindings) (condition : Expr) (rows : List LocalizedRow) : List LocalizedRow :=
  rows.filter fun row => condition.truth? store (row.valuation names p) root b = some .yes

theorem rowsWhere_localeCondition {store : Store} (hs : store.ComparesTexts) {names : Conventions}
    {l : Locale} {p : ResolvedPath} {root : String} {b final : Bindings}
    (hb : (localeCondition names l.fallback p.owner b).2.entries <+: final.entries)
    (rows : List LocalizedRow) :
    rowsWhere store names p root final (localeCondition names l.fallback p.owner b).1 rows =
      rows.filter (·.locale ∈ l.ranks) :=
  List.filter_congr fun row _ =>
    decide_eq_decide.mpr (truth?_localeCondition hs row.valueOf_localeField hb)

/-- The text that stands for the row where the greatest is taken. -/
def LocalizedRow.ranked (width : Nat) (row : LocalizedRow) : String :=
  String.ofList (padded width (row.locale.getD "")) ++ row.value

section

variable (names : Conventions) (p : ResolvedPath)

theorem onRow?_localeKey (row : LocalizedRow) (width : Nat) :
    (Expr.localeKey (.column p.owner names.localeField) width).onRow? (row.valuation names p) =
      some (.text (String.ofList (padded width (row.locale.getD "")))) := by
  have hcode : Datum.ofValue? (row.locale.elim .null .string) =
      some (row.locale.elim .null .text) := by cases row.locale <;> rfl
  have hcoalesce : Datum.call? "coalesce" [row.locale.elim .null .text, .text ""] =
      some (.text (row.locale.getD "")) := by cases row.locale <;> rfl
  simp [Expr.localeKey, Expr.function, Expr.onRow?, Expr.onRowAll?, hcode, hcoalesce,
    Datum.call?_concat, Datum.call?_substring, Datum.substring_one, padded]

theorem onRow?_ranked (row : LocalizedRow) (h : p.field ≠ names.localeField) (width : Nat) :
    (Expr.function "concat" [.localeKey (.column p.owner names.localeField) width,
      .column p.owner p.field]).onRow? (row.valuation names p) =
      some (.text (row.ranked width)) := by
  have hkey := onRow?_localeKey names p row width
  have hvalue : Datum.ofValue? ((row.valuation names p).valueOf p.owner p.field) =
      some (.text row.value) := by
    rw [row.valueOf_field h, Datum.ofValue?]
  simp [Expr.function, Expr.onRow?, Expr.onRowAll?, hkey, hvalue, Datum.call?_concat,
    LocalizedRow.ranked]

theorem overRows?_localized (h : p.field ≠ names.localeField) (width : Nat)
    {rows : List LocalizedRow} {row : LocalizedRow}
    (hmax : (rows.map (·.ranked width)).max? = some (row.ranked width)) :
    (Expr.localized (.column p.owner names.localeField) (.column p.owner p.field) width).overRows?
      (rows.map (·.valuation names p)) = some (.text row.value) := by
  have hrows : (rows.map (·.valuation names p)).mapM (Expr.function "concat"
      [.localeKey (.column p.owner names.localeField) width, .column p.owner p.field]).onRow? =
      some ((rows.map (·.ranked width)).map .text) := by
    rw [List.mapM_map, List.map_map]
    exact Datum.mapM_eq_some_map (fun row => onRow?_ranked names p row h width) rows
  have hvalue := Datum.substringFrom_append (String.ofList (padded width (row.locale.getD "")))
    row.value width (by simp)
  rw [Expr.localized, Expr.overRows?_substring (Expr.overRows?_max hrows hmax)]
  exact congrArg (some ∘ Datum.text) hvalue

end

end ObjectQuery
