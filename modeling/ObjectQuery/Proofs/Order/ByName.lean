import ObjectQuery.Proofs.Compiler.Fault
import ObjectQuery.Proofs.Order.Ordinals

/-! Sorts by the names of columns. A name stands for the first column that has it, so the sorts fit
every query with as many columns, and the order keys lead to the items of the named columns. -/

namespace ObjectQuery

namespace SortDescriptor

/-- The sort is on the first of the columns with the name; without a direction it ascends. -/
structure IsOn (identifiers : List String) (name : String) (direction : Option Bool)
    (d : SortDescriptor) : Prop where
  named : identifiers[d.column]? = some name
  first : ∀ j < d.column, identifiers[j]? ≠ some name
  ascending : d.ascending = direction.getD true

theorem isOn_of_idxOf? {identifiers : List String} {name : String} {column : Nat}
    (h : identifiers.idxOf? name = some column) (direction : Option Bool) :
    IsOn identifiers name direction ⟨column, direction.getD true⟩ := by
  obtain ⟨hlt, hname, hfirst⟩ := List.idxOf?_eq_some_iff.mp h
  refine ⟨List.getElem?_eq_some_iff.mpr ⟨hlt, hname⟩, fun j hj => ?_, rfl⟩
  rw [List.getElem?_eq_getElem (Nat.lt_trans hj hlt)]
  exact fun heq => hfirst j hj (Option.some.inj heq)

theorem IsOn.column_lt {identifiers : List String} {name : String} {direction : Option Bool}
    {d : SortDescriptor} (h : IsOn identifiers name direction d) :
    d.column < identifiers.length :=
  (List.getElem?_eq_some_iff.mp h.named).1

section

variable {identifiers names : List String} {directions : List Bool}

theorem byName_cons_of_not_mem {name : String} (h : name ∉ identifiers) (names : List String)
    (directions : List Bool) :
    byName identifiers (name :: names) directions = .error (.unknownColumn name) := by
  rw [byName, List.idxOf?_eq_none_iff.mpr h]

theorem byName_cons_of_idxOf? {name : String} {column : Nat}
    (h : identifiers.idxOf? name = some column) (names : List String) (directions : List Bool) :
    byName identifiers (name :: names) directions =
      (byName identifiers names directions.tail).map (⟨column, directions.headD true⟩ :: ·) := by
  rw [byName, h]

/-- Whether the names are columns decides alone, and the first that is none is the fault. -/
theorem errorOf?_byName : errorOf? (byName identifiers names directions) =
    (names.find? (· ∉ identifiers)).map .unknownColumn := by
  induction names generalizing directions with
  | nil => rfl
  | cons name names ih =>
    by_cases hname : name ∈ identifiers
    · obtain ⟨column, hcolumn⟩ := Option.ne_none_iff_exists'.mp
        (mt List.idxOf?_eq_none_iff.mp (not_not_intro hname))
      rw [byName_cons_of_idxOf? hcolumn, List.find?_cons_of_neg (by simpa using hname), ← ih]
      cases byName identifiers names directions.tail <;> rfl
    · rw [byName_cons_of_not_mem hname, List.find?_cons_of_pos (by simpa using hname)]
      rfl

theorem isOn_of_byName {sort : List SortDescriptor}
    (h : byName identifiers names directions = .ok sort) :
    sort.length = names.length ∧ ∀ (i : Nat) (name : String), names[i]? = some name →
      ∃ d, sort[i]? = some d ∧ IsOn identifiers name directions[i]? d := by
  induction names generalizing directions sort with
  | nil =>
    cases h
    simp
  | cons first names ih =>
    cases hcolumn : identifiers.idxOf? first with
    | none =>
      rw [byName, hcolumn] at h
      cases h
    | some column =>
      rw [byName_cons_of_idxOf? hcolumn] at h
      cases hrest : byName identifiers names directions.tail with
      | error e =>
        rw [hrest] at h
        cases h
      | ok rest =>
        rw [hrest] at h
        cases h
        obtain ⟨hlength, hon⟩ := ih hrest
        refine ⟨congrArg (· + 1) hlength, ?_⟩
        intro i name hname
        cases i with
        | zero =>
          obtain rfl : first = name := Option.some.inj hname
          have hdirection : directions.headD true = directions[0]?.getD true := by
            cases directions <;> rfl
          rw [hdirection]
          exact ⟨_, rfl, isOn_of_idxOf? hcolumn _⟩
        | succ i =>
          obtain ⟨d, hd, hon⟩ := hon i name hname
          rw [List.getElem?_tail] at hon
          exact ⟨d, hd, hon⟩

theorem column_lt_of_byName {sort : List SortDescriptor}
    (h : byName identifiers names directions = .ok sort) {d : SortDescriptor} (hd : d ∈ sort) :
    d.column < identifiers.length := by
  obtain ⟨hlength, hon⟩ := isOn_of_byName h
  obtain ⟨i, hi, rfl⟩ := List.mem_iff_getElem.mp hd
  have hname : i < names.length := hlength ▸ hi
  obtain ⟨d', hd', hon⟩ := hon i names[i] (List.getElem?_eq_getElem hname)
  rw [List.getElem?_eq_getElem hi] at hd'
  exact Option.some.inj hd' ▸ hon.column_lt

end

end SortDescriptor

namespace Query

theorem sortError?_map_some {columns : Nat} {sort : List SortDescriptor}
    (h : ∀ d ∈ sort, d.column < columns) (position : Nat) :
    sortError? columns position (sort.map some) = none := by
  induction sort generalizing position with
  | nil => rfl
  | cons d rest ih =>
    have hd := h d List.mem_cons_self
    rw [List.map_cons, sortError?, if_neg (by omega)]
    exact ih (fun other ho => h other (List.mem_cons_of_mem _ ho)) _

theorem validate_withSort {q : Query} {sort : List SortDescriptor} (hentity : q.hasEntity = true)
    (h : ∀ d ∈ sort, d.column < q.columns.length) : (q.withSort sort).validate = .ok () := by
  have hentity : (q.withSort sort).hasEntity = true := hentity
  have hsort : sortError? (q.withSort sort).columns.length 0 (q.withSort sort).sort = none :=
    sortError?_map_some h 0
  rw [validate, hentity, hsort]
  rfl

end Query

/-- The keys with a direction are those of the sorts: each has the direction of its sort and is the
place in the select list that has the sorted column, which is one further behind an id. -/
def Statement.SortsBy (c : Compiler) (q : Query) (sort : List SortDescriptor) (s : Statement) :
    Prop :=
  List.Forall₂
    (fun key d => key.direction = some (.ofAscending d.ascending) ∧
      key.ordinal = d.column + (if q.includeId then 2 else 1) ∧
      ∃ column, q.columns[d.column]? = some column ∧
        s.select[key.ordinal - 1]? = some (column.item c.names c.resolver))
    (s.orderBy.filter (·.direction.isSome)) sort

namespace Compiler

variable {c : Compiler} {q : Query} {sort : List SortDescriptor}

theorem rows_sortsBy (h : ∀ d ∈ sort, d.column < q.columns.length) (conditions : List Expr) :
    (c.rows (q.withSort sort) conditions).SortsBy c q sort := by
  have horder : (c.rows (q.withSort sort) conditions).orderBy =
      orderKeys sort q.columns.length q.includeId := rows_orderBy rfl conditions
  rw [Statement.SortsBy, horder, filter_directed_orderKeys, List.forall₂_map_left_iff,
    List.forall₂_same]
  intro d hd
  have hcolumn := List.getElem?_eq_getElem (h d hd)
  exact ⟨rfl, rfl, _, hcolumn, Query.getElem?_items (q := q.withSort sort) hcolumn⟩

/-- A sort that fits the columns is never the reason why a query is refused. -/
theorem exists_compile_withSort (hentity : q.hasEntity = true)
    (h : ∀ d ∈ sort, d.column < q.columns.length) :
    (∃ s, c.compile (q.withSort sort) = .ok s) ↔ (q.columns ≠ [] ∨ q.includeId = true) ∧
      (∃ joins, q.follow c.resolver = .ok joins) ∧
      (∃ r, c.conditions (q.withSort sort) = .ok r) ∧
      ∃ items, q.select c.names c.resolver = .ok items := by
  have hsort := Query.sortError?_map_some h 0
  have hfollow : (q.withSort sort).follow c.resolver = q.follow c.resolver := rfl
  have hselect : (q.withSort sort).select c.names c.resolver = q.select c.names c.resolver := rfl
  rw [← hfollow, ← hselect, ← exists_rowConditions_iff]
  constructor
  · rintro ⟨s, hs⟩
    rw [compile_eq] at hs
    obtain ⟨_, hcheck, hs⟩ := bind_eq_ok hs
    obtain ⟨r, hr, _⟩ := bind_eq_ok hs
    exact ⟨(check_eq_ok_iff.mp hcheck).2.2, r, hr⟩
  · rintro ⟨hne, r, hr⟩
    have hcheck : check (q.withSort sort) = .ok () := check_eq_ok_iff.mpr ⟨hentity, hsort, hne⟩
    rw [compile_eq, hcheck, hr]
    exact ⟨_, rfl⟩

end Compiler

namespace SortDescriptor

/-- Names are resolved exactly if each is the name of a column, and the first that is none is the
fault. Each gives one sort, on the first column with the name, and a query with as many columns
takes the sorts: it is valid, and its order keys lead to the named columns. -/
theorem byName_resolves (identifiers names : List String) (directions : List Bool) :
    ((∃ sort, byName identifiers names directions = .ok sort) ↔
      ∀ name ∈ names, name ∈ identifiers) ∧
    (∀ e, byName identifiers names directions = .error e ↔
      ∃ name, names.find? (· ∉ identifiers) = some name ∧ e = .unknownColumn name) ∧
    ∀ sort, byName identifiers names directions = .ok sort →
      sort.length = names.length ∧
      (∀ (i : Nat) (name : String), names[i]? = some name →
        ∃ d, sort[i]? = some d ∧ IsOn identifiers name directions[i]? d) ∧
      ∀ q : Query, q.hasEntity = true → q.columns.length = identifiers.length →
        (q.withSort sort).validate = .ok () ∧
        ∀ c : Compiler,
          ((∃ s, c.compile (q.withSort sort) = .ok s) ↔ (q.columns ≠ [] ∨ q.includeId = true) ∧
            (∃ joins, q.follow c.resolver = .ok joins) ∧
            (∃ r, c.conditions (q.withSort sort) = .ok r) ∧
            ∃ items, q.select c.names c.resolver = .ok items) ∧
          ∀ s, c.compile (q.withSort sort) = .ok s → s.statement.SortsBy c q sort := by
  refine ⟨?_, fun e => ?_, fun sort h => ?_⟩
  · rw [← errorOf?_eq_none_iff, errorOf?_byName]
    simp
  · rw [← errorOf?_eq_some_iff, errorOf?_byName, Option.map_eq_some_iff]
    simp [eq_comm]
  · obtain ⟨hlength, hon⟩ := isOn_of_byName h
    refine ⟨hlength, hon, fun q hentity hcolumns => ?_⟩
    have hfits : ∀ d ∈ sort, d.column < q.columns.length := by
      intro d hd
      rw [hcolumns]
      exact column_lt_of_byName h hd
    refine ⟨Query.validate_withSort hentity hfits, fun c => ⟨?_, fun s hs => ?_⟩⟩
    · exact Compiler.exists_compile_withSort hentity hfits
    · obtain ⟨_, conditions, hrows⟩ := Compiler.compile_rows hs
      rw [hrows]
      exact Compiler.rows_sortsBy hfits conditions

/-- Two columns of one name. -/
def stockQuery : Query :=
  { Query.ofEntity "Product" with
    columns := [⟨"code", none⟩, ⟨"stock", some .sum⟩, ⟨"code", some .count⟩] }

/-- A name twice, the second time without a direction, and a name that two columns have. -/
theorem byName_resolves_stock :
    byName ["code", "stock", "code"] ["stock", "code", "stock"] [false, false] =
      .ok [⟨1, false⟩, ⟨0, false⟩, ⟨1, true⟩] ∧
    stockQuery.hasEntity = true ∧ stockQuery.columns.length = 3 ∧
    ∃ s : Compiled, Compiler.standard.compile
        (stockQuery.withSort [⟨1, false⟩, ⟨0, false⟩, ⟨1, true⟩]) = .ok s ∧
      s.statement.orderBy = [⟨3, some .desc⟩, ⟨2, some .desc⟩, ⟨3, some .asc⟩, ⟨1, none⟩] ∧
      s.statement.SortsBy .standard stockQuery [⟨1, false⟩, ⟨0, false⟩, ⟨1, true⟩] := by
  have hsort : byName ["code", "stock", "code"] ["stock", "code", "stock"] [false, false] =
      .ok [⟨1, false⟩, ⟨0, false⟩, ⟨1, true⟩] := rfl
  obtain ⟨s, hs, horder⟩ : ∃ s : Compiled, Compiler.standard.compile
      (stockQuery.withSort [⟨1, false⟩, ⟨0, false⟩, ⟨1, true⟩]) = .ok s ∧
        s.statement.orderBy = [⟨3, some .desc⟩, ⟨2, some .desc⟩, ⟨3, some .asc⟩, ⟨1, none⟩] :=
    ⟨_, rfl, rfl⟩
  obtain ⟨_, _, hquery⟩ := (byName_resolves _ _ _).2.2 _ hsort
  exact ⟨hsort, rfl, rfl, s, hs, horder, ((hquery stockQuery rfl rfl).2 .standard).2 s hs⟩

end SortDescriptor

end ObjectQuery
