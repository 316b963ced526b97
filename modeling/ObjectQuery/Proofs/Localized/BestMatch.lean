import ObjectQuery.Proofs.Localized.Rows
import ObjectQuery.Proofs.Order.Ordinals
import ObjectQuery.Proofs.Path.Star

/-! Locale columns show the value of the row that matches the locale of the query best. -/

namespace ObjectQuery

/-- The first of the codes that a row has. -/
def bestMatch (codes : List String) (rows : List LocalizedRow) : Option String :=
  codes.find? fun code => rows.any (·.locale = some code)

theorem locale_eq_bestMatch {l : Locale} {width : Nat} (h : l.RankedBy width)
    {rows : List LocalizedRow} {row : LocalizedRow} (hrows : ∀ other ∈ rows, other.locale ∈ l.ranks)
    (hrow : row ∈ rows) (hmax : ∀ other ∈ rows, other.ranked width ≤ row.ranked width) :
    row.locale = bestMatch l.fallback rows := by
  obtain ⟨before, after, hranks⟩ := List.append_of_mem (hrows row hrow)
  -- A row of a better rank would have a greater text than the greatest.
  have hbefore : ∀ rank ∈ before, rows.any (·.locale = rank) = false := by
    intro rank hrank
    rw [List.any_eq_false]
    intro other hother heq
    obtain rfl : other.locale = rank := by simpa using heq
    have hp := l.ranks_pairwise h
    rw [hranks, List.pairwise_append] at hp
    have hlt := hp.2.2 _ hrank _ List.mem_cons_self row.value.toList other.value.toList
    refine absurd (hmax other hother) (not_le.mpr ?_)
    rw [String.lt_iff_toList_lt, LocalizedRow.ranked, LocalizedRow.ranked, String.toList_append,
      String.toList_append, String.toList_ofList, String.toList_ofList]
    exact hlt
  have hfind : l.ranks.find? (fun rank => rows.any (·.locale = rank)) = some row.locale := by
    rw [List.find?_eq_some_iff_append]
    refine ⟨List.any_eq_true.mpr ⟨row, hrow, by simp⟩, before, after, hranks, ?_⟩
    intro rank hrank
    rw [hbefore rank hrank]
    rfl
  rw [Locale.ranks, List.find?_append, List.find?_map] at hfind
  change ((bestMatch l.fallback rows).map some).or _ = _ at hfind
  cases hb : bestMatch l.fallback rows with
  | some code =>
    rw [hb] at hfind
    exact (Option.some.inj hfind).symm
  | none =>
    rw [hb] at hfind
    have hnone := List.mem_of_find?_eq_some hfind
    exact List.mem_singleton.mp hnone

theorem exists_greatest {rows : List LocalizedRow} (h : rows ≠ []) (width : Nat) :
    ∃ row ∈ rows, (rows.map (·.ranked width)).max? = some (row.ranked width) ∧
      ∀ other ∈ rows, other.ranked width ≤ row.ranked width := by
  have hne : rows.map (·.ranked width) ≠ [] := by simpa using h
  obtain ⟨text, htext⟩ := Option.isSome_iff_exists.mp (List.isSome_max?_of_ne_nil hne)
  obtain ⟨hmem, hmax⟩ := List.max?_eq_some_iff.mp htext
  obtain ⟨row, hrow, rfl⟩ := List.mem_map.mp hmem
  exact ⟨row, hrow, htext, fun other hother => hmax _ (List.mem_map_of_mem hother)⟩

theorem Column.item_bestMatch {names : Conventions} {resolver : Resolver} {column : Column}
    {l : Locale} {rows : List LocalizedRow} (hlocale : column.aggregate = some .locale)
    (hstar : (resolver.resolve column.path).expr ≠ .star)
    (hfield : (resolver.resolve column.path).field ≠ names.localeField)
    (hl : l.RankedBy names.localeWidth) (hne : rows ≠ [])
    (hrows : ∀ row ∈ rows, row.locale ∈ l.ranks) :
    ∃ row ∈ rows, (column.item names resolver).overRows?
        (rows.map (·.valuation names (resolver.resolve column.path))) = some (.text row.value) ∧
      row.locale = bestMatch l.fallback rows := by
  obtain ⟨row, hrow, hmax, hle⟩ := exists_greatest hne names.localeWidth
  refine ⟨row, hrow, ?_, locale_eq_bestMatch hl hrows hrow hle⟩
  simp only [Column.item, hlocale, ResolvedPath.expr_eq_column hstar]
  exact overRows?_localized names _ hfield _ hmax

theorem mem_localeConditions (names : Conventions) (codes : List String) {owner : String}
    {owners : List String} (h : owner ∈ owners) (b : Bindings) :
    ∃ b', (localeCondition names codes owner b').1 ∈ (localeConditions names codes owners b).1 ∧
      (localeCondition names codes owner b').2.entries <+:
        (localeConditions names codes owners b).2.entries := by
  induction owners generalizing b with
  | nil => simp at h
  | cons first rest ih =>
    -- What is bound for the owners behind one stands behind its own argument.
    rcases List.mem_cons.mp h with rfl | h
    · exact ⟨b, List.mem_cons_self, (localeConditions_grows names codes rest _).isPrefix⟩
    · obtain ⟨b', hmem, hprefix⟩ := ih h (localeCondition names codes first b).2
      exact ⟨b', List.mem_cons_of_mem _ hmem, hprefix⟩

theorem Query.owner_mem_localizedAliases (names : Conventions) (resolver : Resolver) {q : Query}
    {column : Column} (h : column ∈ q.columns) (hlocale : column.aggregate = some .locale) :
    (resolver.resolve column.path).owner ∈ q.localizedAliases names resolver := by
  have hcolumn : resolver.resolve column.path ∈
      (q.columns.filter (·.aggregate = some .locale)).map (resolver.resolve ·.path) :=
    List.mem_map_of_mem (List.mem_filter.mpr ⟨h, by simpa using hlocale⟩)
  rw [localizedAliases, List.mem_eraseDups]
  exact List.mem_map_of_mem (List.mem_append_left _ hcolumn)

namespace Compiler

variable {c : Compiler} {q : Query}

/-- The item of a locale column shows a value of the locale, or of the first fallback that a row
matches. Rows without a locale are shown when no other is left. -/
theorem compile_bestMatch {s : Compiled} {i : Nat} {column : Column} {store : Store}
    (h : c.compile q = .ok s) (hcolumn : q.columns[i]? = some column)
    (hlocale : column.aggregate = some .locale)
    (hstar : (c.resolver.resolve column.path).expr ≠ .star)
    (hfield : (c.resolver.resolve column.path).field ≠ c.names.localeField)
    (hl : q.locale.RankedBy c.names.localeWidth) (hs : store.ComparesTexts) :
    let p := c.resolver.resolve column.path
    ∃ (b : Bindings) (condition item : Expr),
      condition = (localeCondition c.names q.locale.fallback p.owner b).1 ∧
      condition ∈ s.statement.conditions ∧
      s.statement.select[i + firstOrdinal q.includeId - 1]? = some item ∧
      ∀ rows : List LocalizedRow,
        let kept := rowsWhere store c.names p c.resolver.root s.parameters condition rows
        kept = rows.filter (·.locale ∈ q.locale.ranks) ∧ (kept ≠ [] → ∃ row ∈ kept,
          item.overRows? (kept.map (·.valuation c.names p)) = some (.text row.value) ∧
          row.locale = bestMatch q.locale.fallback kept) := by
  intro p
  obtain ⟨hsource, hselect, _⟩ := compile_parts h
  obtain ⟨filter, b₁, _, hconditions, hparameters⟩ := conditions_locale hsource.conditions
  have howner := Query.owner_mem_localizedAliases c.names c.resolver
    (List.mem_of_getElem? hcolumn) hlocale
  obtain ⟨b, hmem, hprefix⟩ := mem_localeConditions c.names q.locale.fallback howner b₁
  refine ⟨b, _, column.item c.names c.resolver, rfl, ?_, ?_, ?_⟩
  · rw [hconditions]
    exact List.mem_append_right _ hmem
  · rw [hselect]
    exact Query.getElem?_items hcolumn
  · intro rows kept
    have hkept : kept = rows.filter (·.locale ∈ q.locale.ranks) := by
      apply rowsWhere_localeCondition hs
      rwa [hparameters]
    refine ⟨hkept, fun hne => Column.item_bestMatch hlocale hstar hfield hl hne ?_⟩
    intro row hrow
    rw [hkept] at hrow
    exact of_decide_eq_true (List.mem_filter.mp hrow).2

def titleQuery : Query :=
  { Query.ofEntity "Product" with
    columns := [⟨"localeData.title", some .locale⟩]
    locale := ⟨"en", "US", "POSIX"⟩ }

def titleStore : Store where
  compare
    | .eq, .string x, .string y => x = y
    | _, _, _ => false
  matchesLike _ _ := false

def titleRow (locale : Option String) (value : String) : LocalizedRow :=
  ⟨locale, value, ⟨fun _ _ => .null, fun _ => .unknown⟩⟩

/-- The code of the variant is longer than the width. -/
theorem compile_bestMatch_variant :
    let rows := [titleRow none "Paint", titleRow (some "en") "Colour", titleRow (some "de") "Farbe",
      titleRow (some "en_US") "Color"]
    let p := (Resolver.dotted "obj").resolve "localeData.title"
    ∃ (s : Compiled) (condition item : Expr),
      standard.compile titleQuery = .ok s ∧ s.statement.conditions = [condition] ∧
      s.statement.select[1]? = some item ∧
      item.overRows? ((rowsWhere titleStore .standard p "obj" s.parameters condition rows).map
        (·.valuation .standard p)) = some (.text "Color") := by
  intro rows p
  obtain ⟨s, e, hs, he⟩ : ∃ (s : Compiled) (e : Expr),
      standard.compile titleQuery = .ok s ∧ s.statement.conditions = [e] := ⟨_, _, rfl, rfl⟩
  have hcolumn : titleQuery.columns[0]? = some ⟨"localeData.title", some .locale⟩ := rfl
  have hstar : p.expr ≠ .star := mt Resolver.expr_dotted_eq_star.mp (by decide)
  have hfield : p.field ≠ "locale" := by decide
  have hl : titleQuery.locale.RankedBy 10 :=
    ⟨.inr ⟨'e', ['n'], rfl, by decide⟩, by decide, by decide⟩
  have hstore : titleStore.ComparesTexts := fun _ _ => rfl
  obtain ⟨b, condition, item, _, hmem, hitem, hrows⟩ :=
    compile_bestMatch hs hcolumn rfl hstar hfield hl hstore
  obtain rfl : condition = e := List.mem_singleton.mp (he ▸ hmem)
  refine ⟨s, condition, item, hs, he, hitem, ?_⟩
  obtain ⟨hkept, hbest⟩ := hrows rows
  have hkept : rowsWhere titleStore .standard p "obj" s.parameters condition rows =
      [titleRow none "Paint", titleRow (some "en") "Colour", titleRow (some "en_US") "Color"] :=
    hkept
  obtain ⟨row, hrow, hvalue, hlocale⟩ := hbest (hkept ▸ List.cons_ne_nil _ _)
  have hcode : row.locale = some "en_US" := by
    rw [hlocale]
    exact (congrArg (bestMatch titleQuery.locale.fallback) hkept).trans rfl
  have hcolor : row = titleRow (some "en_US") "Color" := by
    have hrow : row ∈ [titleRow none "Paint", titleRow (some "en") "Colour",
        titleRow (some "en_US") "Color"] := hkept ▸ hrow
    simp only [List.mem_cons, List.not_mem_nil, or_false] at hrow
    rcases hrow with rfl | rfl | rfl
    · cases hcode
    · exact absurd hcode (by decide)
    · rfl
  rw [hcolor] at hvalue
  exact hvalue

end Compiler

end ObjectQuery
