import ObjectQuery.Execution.GroupCount
import ObjectQuery.Proofs.Compiler.Fault
import ObjectQuery.Proofs.Filter.Normal
import ObjectQuery.Proofs.Group.Keys
import ObjectQuery.Proofs.Meaning.Statement
import ObjectQuery.Proofs.Order.Ordinals

/-! The query that counts rows for the values of the column a query is sorted on. It is about the
attribute of that column, which it selects, groups by and tests for the values. -/

namespace ObjectQuery

theorem Restriction.childLeaves_map_some (children : List Restriction) :
    childLeaves (children.map some) = children.flatMap leaves := by
  induction children with
  | nil => rfl
  | cons r rest ih => rw [List.map_cons, childLeaves, ih, List.flatMap_cons]

theorem Restriction.anyHasLeaf_map_some (children : List Restriction) :
    anyHasLeaf (children.map some) = children.any hasLeaf := by
  induction children with
  | nil => rfl
  | cons r rest ih => rw [List.map_cons, anyHasLeaf, ih, List.any_cons]

/-- A child without a leaf may as well hold. -/
theorem Restriction.all_childTruths (store : Store) (v : Valuation) (resolver : Resolver)
    (children : List Restriction) :
    Truth.all (childTruths store v resolver (children.map some)) =
      .all (children.map fun r => if r.hasLeaf then r.truth store v resolver else .yes) := by
  induction children with
  | nil => rfl
  | cons r rest ih =>
    rw [List.map_cons, childTruths, List.map_cons, Truth.all_cons, ← ih]
    by_cases hr : r.hasLeaf = true
    · rw [if_pos hr, if_pos hr, Truth.all_cons]
    · rw [if_neg hr, if_neg hr, Truth.yes_and]

inductive GroupMatch (path : String) : List Value → Bool → Restriction → Prop where
  | values {values : List Value} (hv : values ≠ []) :
      GroupMatch path values false (.isIn path values)
  | null : GroupMatch path [] true (.eq path .null)
  | either {values : List Value} (hv : values ≠ []) :
      GroupMatch path values true (.anyOf [.isIn path values, .eq path .null])

/-- The attribute is tested for values that are bound to a parameter, for null, or for both. -/
inductive Expr.TestedBy (target : Expr) (b : Bindings) : List Value → Bool → Expr → Prop where
  | values {values : List Value} {name : String} (hb : b.list? name = some values) :
      TestedBy target b values false (.in false target name)
  | null : TestedBy target b [] true (.isNull false target)
  | either {values : List Value} {name : String} (hb : b.list? name = some values) :
      TestedBy target b values true (.paren (.or [.in false target name, .isNull false target]))

section

variable (resolver : Resolver) (path : String) (b : Bindings)

theorem filterCondition_isIn {values : List Value} (hv : values ≠ []) :
    filterCondition resolver (.isIn path values) b =
      let p := resolver.resolve path
      let bound := b.bind (parameterBase p.qualified) (.list values)
      .ok (some (.in false p.expr bound.1), bound.2) := by
  have hempty : values.isEmpty = false := by simpa using hv
  simp [Restriction.isIn, filterCondition, simpleCondition, valueCondition, hempty]

theorem filterCondition_eq_null :
    filterCondition resolver (.eq path .null) b =
      .ok (some (.isNull false (resolver.resolve path).expr), b) := rfl

theorem filterCondition_isIn_or_null {values : List Value} (hv : values ≠ []) :
    filterCondition resolver (.anyOf [.isIn path values, .eq path .null]) b =
      let p := resolver.resolve path
      let bound := b.bind (parameterBase p.qualified) (.list values)
      .ok (some (.paren (.or [.in false p.expr bound.1, .isNull false p.expr])), bound.2) := by
  rw [Restriction.anyOf, filterCondition_or, List.map_cons, operandConditions_child,
    filterCondition_isIn resolver path b hv, List.map_cons]
  rfl

end

namespace GroupMatch

variable {path : String} {values : List Value} {hasNull : Bool} {r : Restriction}

theorem of_groupMatch (path : String) (h : values ≠ [] ∨ hasNull = true) :
    GroupMatch path values hasNull (groupMatch path values hasNull) := by
  cases hasNull with
  | false =>
    have hv : values ≠ [] := by simpa using h
    exact .values hv
  | true =>
    by_cases hv : values = []
    · subst hv
      exact .null
    · have hempty : values.isEmpty = false := by simpa using hv
      have hmatch : groupMatch path values true = .anyOf [.isIn path values, .eq path .null] := by
        simp [groupMatch, hempty]
      rw [hmatch]
      exact .either hv

theorem hasLeaf (h : GroupMatch path values hasNull r) : r.hasLeaf = true := by
  cases h <;> rfl

theorem mem_paths (h : GroupMatch path values hasNull r) {other : String} :
    other ∈ r.paths ↔ other = path := by
  cases h <;> simp [Restriction.isIn, Restriction.eq, Restriction.anyOf, Restriction.paths,
    Restriction.childPaths]

theorem faultless (h : GroupMatch path values hasNull r) :
    r.leaves.findSome? Leaf.error? = none := by
  cases h <;> simp_all [Restriction.isIn, Restriction.eq, Restriction.anyOf, Restriction.leaves,
    Restriction.childLeaves, Leaf.error?, Leaf.fault?]

theorem tested (h : GroupMatch path values hasNull r) {resolver : Resolver} {b b' final : Bindings}
    {o : Option Expr} (ho : filterCondition resolver r b = .ok (o, b'))
    (hf : b'.entries <+: final.entries) :
    ∃ e, o = some e ∧ (resolver.resolve path).expr.TestedBy final values hasNull e := by
  cases h with
  | values hv =>
    rw [filterCondition_isIn resolver path b hv] at ho
    cases ho
    exact ⟨_, rfl, .values (Bindings.list?_bind hf)⟩
  | null =>
    rw [filterCondition_eq_null] at ho
    cases ho
    exact ⟨_, rfl, .null⟩
  | either hv =>
    rw [filterCondition_isIn_or_null resolver path b hv] at ho
    cases ho
    exact ⟨_, rfl, .either (Bindings.list?_bind hf)⟩

end GroupMatch

namespace Query

/-- The query that counts the rows for each value of an attribute. -/
def counting (q : Query) (path : String) (ascending : Bool) (values : List Value)
    (hasNull : Bool) : Query where
  entity := q.entity
  columns := [⟨path, none⟩, ⟨"*", some .count⟩]
  filter := some (.allOf (q.filter.toList ++ [groupMatch path values hasNull]))
  sort := [some ⟨0, ascending⟩]
  locale := q.locale
  includeId := false
  distinctId := false
  totalCount := true

variable {q : Query} {primary : SortDescriptor} {column : Column} {values : List Value}
  {hasNull : Bool}

theorem groupCounts_eq (hsort : q.sort.head? = some (some primary))
    (hcolumn : q.columns[primary.column]? = some column) (values : List Value) (hasNull : Bool) :
    q.groupCounts values hasNull =
      .ok (q.counting column.path primary.ascending values hasNull) := by
  obtain ⟨rest, hrest⟩ := List.head?_eq_some_iff.mp hsort
  simp only [groupCounts, hrest, hcolumn, counting]

section

variable (q) (path : String) (ascending : Bool) (values hasNull)

theorem leaves_counting :
    (q.counting path ascending values hasNull).filter.elim [] Restriction.leaves =
      q.filter.elim [] Restriction.leaves ++ (groupMatch path values hasNull).leaves := by
  have hleaves :=
    Restriction.childLeaves_map_some (q.filter.toList ++ [groupMatch path values hasNull])
  rw [counting, Option.elim_some, Restriction.allOf, Restriction.leaves, hleaves]
  cases q.filter <;> simp

theorem paths_counting :
    (q.counting path ascending values hasNull).filter.elim [] Restriction.paths =
      q.filter.elim [] Restriction.paths ++ (groupMatch path values hasNull).paths := by
  have hpaths :=
    Restriction.childPaths_map_some (q.filter.toList ++ [groupMatch path values hasNull])
  rw [counting, Option.elim_some, Restriction.allOf, Restriction.paths, hpaths]
  cases q.filter <;> simp

end

theorem rowsFault?_counting {names : Conventions} {root : String}
    (h : q.rowsFault? names (.dotted root) = none) (hne : values ≠ [] ∨ hasNull = true)
    (path : String) (ascending : Bool) :
    (q.counting path ascending values hasNull).rowsFault? names (.dotted root) = none := by
  obtain ⟨hentity, _, _, _, hfilter, _⟩ := q.rowsFault?_eq_none_iff.mp h
  have hmatch := (GroupMatch.of_groupMatch path hne).faultless
  rw [rowsFault?_eq_none_iff]
  refine ⟨hentity, rfl, rfl, pathFault?_dotted _ root, ?_, ?_⟩
  · rw [filterFault?, leaves_counting, List.findSome?_append, hmatch, Option.or_none]
    exact hfilter
  · simp [prefixFault?, counting]

theorem hasLeaf_counting (hne : values ≠ [] ∨ hasNull = true) {path : String} :
    (Restriction.allOf (q.filter.toList ++ [groupMatch path values hasNull])).hasLeaf = true := by
  have hmatch := (GroupMatch.of_groupMatch path hne).hasLeaf
  rw [Restriction.allOf, Restriction.hasLeaf, Restriction.anyHasLeaf_map_some, List.any_append,
    List.any_cons, hmatch, Bool.true_or, Bool.or_true]

theorem filterTruth_counting (store : Store) (v : Valuation) (resolver : Resolver)
    (hne : values ≠ [] ∨ hasNull = true) (path : String) (ascending : Bool) :
    (q.counting path ascending values hasNull).filterTruth store v resolver =
      (q.filterTruth store v resolver).and
        ((groupMatch path values hasNull).truth store v resolver) := by
  have hmatch := (GroupMatch.of_groupMatch path hne).hasLeaf
  rw [filterTruth, filterTruth, counting, Option.elim_some, if_pos (hasLeaf_counting hne),
    Restriction.allOf, Restriction.truth, Restriction.all_childTruths]
  cases q.filter with
  | none => simp [hmatch, Truth.all_singleton, Truth.yes_and]
  | some r =>
    rw [Option.toList_some, List.singleton_append, List.map_cons, List.map_singleton,
      if_pos hmatch, Truth.all_cons, Truth.all_singleton, Option.elim_some]

end Query

theorem Column.item_eq_expr_iff {names : Conventions} {resolver : Resolver} {c : Column} :
    c.item names resolver = (resolver.resolve c.path).expr ↔ c.aggregate = none := by
  -- An aggregate calls a function, and a path alone does not.
  have hcall (name : String) (distinct : Bool) (args : List Expr) :
      Expr.call name distinct args ≠ (resolver.resolve c.path).expr := by
    unfold ResolvedPath.expr
    split <;> exact Expr.noConfusion
  constructor
  · intro h
    cases ha : c.aggregate with
    | none => rfl
    | some a => cases a <;> simp only [item, ha] at h <;> exact absurd h (hcall _ _ _)
  · exact item_of_plain

namespace Compiler

variable {names : Conventions} {resolver : Resolver} {root : String} {q : Query} {s : Compiled}
  {primary : SortDescriptor} {values : List Value} {hasNull : Bool}

theorem exists_primary_column {c : Compiler} (h : c.compile q = .ok s)
    (hsort : q.sort.head? = some (some primary)) :
    ∃ column, q.columns[primary.column]? = some column := by
  obtain ⟨_, hsorts, _⟩ := check_eq_ok_iff.mp (compile_rows h).1
  obtain ⟨sort, hs, hcolumns⟩ := Query.exists_descriptors hsorts
  have hmem : primary ∈ sort := by
    rw [hs, List.head?_map] at hsort
    obtain ⟨d, hd, hp⟩ := Option.map_eq_some_iff.mp hsort
    obtain rfl := Option.some.inj hp
    exact List.mem_of_mem_head? hd
  exact ⟨_, List.getElem?_eq_getElem (hcolumns primary hmem)⟩

theorem exists_compile_counting (h : (resolving names (.dotted root)).compile q = .ok s)
    (hne : values ≠ [] ∨ hasNull = true) (path : String) (ascending : Bool) :
    ∃ t, (resolving names (.dotted root)).compile (q.counting path ascending values hasNull) =
      .ok t := by
  have hfault : q.rowsFault? names (.dotted root) = none := by
    have hcompile : errorOf? ((resolving names (.dotted root)).compile q) = none := by
      rw [h]
      rfl
    exact errorOf?_compile.symm.trans hcompile
  rw [← errorOf?_eq_none_iff, errorOf?_compile]
  exact Query.rowsFault?_counting hfault hne path ascending

theorem filterCondition_allOf_concat {o : Option Restriction} {r : Restriction}
    {b b' : Bindings} {result : Option Expr}
    (h : filterCondition resolver (.allOf (o.toList ++ [r])) b = .ok (result, b')) :
    ∃ filter b₁ last, filterCondition resolver (o.getD (.and [])) b = .ok (filter, b₁) ∧
      filterCondition resolver r b₁ = .ok (last, b') ∧
      result = combine .and (filter.toList ++ last.toList) := by
  have hlast {b b' : Bindings} {es : List Expr}
      (h : operandConditions resolver [some r] b = .ok (es, b')) :
      ∃ last, filterCondition resolver r b = .ok (last, b') ∧ es = last.toList := by
    rw [operandConditions_child] at h
    obtain ⟨⟨last, b₂⟩, hr, h⟩ := bind_eq_ok h
    cases h
    exact ⟨last, hr, List.append_nil _⟩
  rw [Restriction.allOf, filterCondition_and] at h
  obtain ⟨⟨es, b₂⟩, hes, h⟩ := bind_eq_ok h
  cases h
  cases o with
  | none =>
    obtain ⟨last, hr, rfl⟩ := hlast hes
    exact ⟨none, b, last, rfl, hr, rfl⟩
  | some first =>
    rw [Option.toList_some, List.singleton_append, List.map_cons, operandConditions_child] at hes
    obtain ⟨⟨filter, b₁⟩, hfirst, hes⟩ := bind_eq_ok hes
    obtain ⟨⟨rest, b₂⟩, hrest, hes⟩ := bind_eq_ok hes
    cases hes
    obtain ⟨last, hr, rfl⟩ := hlast hrest
    exact ⟨filter, b₁, last, hfirst, hr, rfl⟩

theorem compile_counting_tested {path : String} {ascending : Bool} {t : Compiled}
    (h : (resolving names resolver).compile (q.counting path ascending values hasNull) = .ok t)
    (hne : values ≠ [] ∨ hasNull = true) :
    ∃ filter b test locale,
      filterCondition resolver (q.filter.getD (.and [])) .empty = .ok (filter, b) ∧
      t.statement.conditions = (combine .and (filter.toList ++ [test])).toList ++ locale ∧
      (resolver.resolve path).expr.TestedBy t.parameters values hasNull test := by
  obtain ⟨result, b', locale, hresult, hb', hconditions, _⟩ := compile_limits h
  obtain ⟨filter, b, last, hfilter, hlast, rfl⟩ := filterCondition_allOf_concat hresult
  obtain ⟨test, rfl, htest⟩ := (GroupMatch.of_groupMatch path hne).tested hlast hb'
  exact ⟨filter, b, test, locale, hfilter, hconditions, htest⟩

theorem items_counting (path : String) (ascending : Bool) :
    (q.counting path ascending values hasNull).items names (.dotted root) =
      [((Resolver.dotted root).resolve path).expr, .call "count" false [.star]] := by
  have hstar : ((Resolver.dotted root).resolve "*").expr = .star :=
    Resolver.expr_dotted_eq_star.mpr rfl
  simp [Query.items, Query.counting, Column.item, Expr.function, hstar]

theorem groupKeys_counting {path : String} (hpath : path ≠ "*") (ascending : Bool) :
    (q.counting path ascending values hasNull).groupKeys names (.dotted root) =
      [((Resolver.dotted root).resolve path).expr] := by
  have hgrouping : (q.counting path ascending values hasNull).isGrouping = true := rfl
  have hplain : (q.counting path ascending values hasNull).plainColumns = [⟨path, none⟩] := rfl
  refine (Query.groupKeys_eq_iff hgrouping).mpr ?_
  rw [hplain]
  intro c hc
  obtain rfl := List.mem_singleton.mp hc
  exact hpath

/-- Groups are formed and tested by the attribute of the first sort, which is what a column without
an aggregate shows. Under an aggregate the column shows something else. -/
theorem groupCounts_attribute (h : (resolving names (.dotted root)).compile q = .ok s)
    (hsort : q.sort.head? = some (some primary)) (hne : values ≠ [] ∨ hasNull = true) :
    ∃ column groups t, q.columns[primary.column]? = some column ∧
      q.groupCounts values hasNull = .ok groups ∧
      (resolving names (.dotted root)).compile groups = .ok t ∧
      let target := ((Resolver.dotted root).resolve column.path).expr
      t.statement.select = [target, .call "count" false [.star]] ∧
      (s.statement.select[primary.column + firstOrdinal q.includeId - 1]? = some target ↔
        column.aggregate = none) ∧
      (column.path ≠ "*" → t.statement.groupBy = [target]) ∧
      ∃ (filter : Option Expr) (locale locale' : List Expr) (test : Expr),
        s.statement.conditions = filter.toList ++ locale ∧
        t.statement.conditions = (combine .and (filter.toList ++ [test])).toList ++ locale' ∧
        target.TestedBy t.parameters values hasNull test := by
  obtain ⟨column, hcolumn⟩ := exists_primary_column h hsort
  obtain ⟨t, ht⟩ := exists_compile_counting h hne column.path primary.ascending
  obtain ⟨_, hselect, hgroup⟩ := compile_parts ht
  obtain ⟨filter, b, test, locale', hfilter, hconditions', htest⟩ := compile_counting_tested ht hne
  obtain ⟨result, _, locale, hresult, _, hconditions, _⟩ := compile_limits h
  -- Both statements begin with the filter, compiled without any argument bound before.
  have hsame : filter = result :=
    congrArg Prod.fst (Except.ok.inj (hfilter.symm.trans hresult))
  rw [← hsame] at hconditions
  have hitem : s.statement.select[primary.column + firstOrdinal q.includeId - 1]? =
      some (column.item names (.dotted root)) := by
    rw [(compile_parts h).2.1]
    exact Query.getElem?_items hcolumn
  refine ⟨column, _, t, hcolumn, Query.groupCounts_eq hsort hcolumn values hasNull, ht, ?_, ?_,
    ?_, filter, locale, locale', test, hconditions, hconditions', htest⟩
  · rw [hselect]
    exact items_counting column.path primary.ascending
  · rw [hitem, Option.some_inj]
    exact Column.item_eq_expr_iff
  · intro hpath
    rw [hgroup]
    exact groupKeys_counting hpath primary.ascending

def customersQuery : Query :=
  { Query.ofEntity "Order" with
    columns := [⟨"code", none⟩, ⟨"customer.name", none⟩]
    filter := some (.eq "status" (.string "OPEN"))
    sort := [some ⟨1, false⟩] }

theorem groupCounts_attribute_customers : ∃ (s : Compiled) (groups : Query) (t : Compiled),
    standard.compile customersQuery = .ok s ∧
      customersQuery.groupCounts [.string "Acme"] true = .ok groups ∧
      standard.compile groups = .ok t ∧
      s.statement.select[2]? = some (.column "customer" "name") ∧
      t.statement.select = [.column "customer" "name", .call "count" false [.star]] ∧
      t.statement.groupBy = [.column "customer" "name"] ∧
      ∃ (filter : Option Expr) (locale : List Expr) (test : Expr),
        t.statement.conditions = (combine .and (filter.toList ++ [test])).toList ++ locale ∧
        (Expr.column "customer" "name").TestedBy t.parameters [.string "Acme"] true test := by
  obtain ⟨s, hs⟩ : ∃ s : Compiled, standard.compile customersQuery = .ok s := ⟨_, rfl⟩
  have hmatched : [Value.string "Acme"] ≠ [] ∨ true = true := .inr rfl
  obtain ⟨column, groups, t, hcolumn, hgroups, ht, hselect, hitem, hgroup, filter, _, locale,
    test, _, hconditions, htest⟩ := groupCounts_attribute hs rfl hmatched
  obtain rfl : ⟨"customer.name", none⟩ = column := Option.some.inj hcolumn
  exact ⟨s, groups, t, hs, hgroups, ht, hitem.mpr rfl, hselect, hgroup (by decide), filter,
    locale, test, hconditions, htest⟩

def totalsQuery : Query :=
  { Query.ofEntity "Order" with
    columns := [⟨"lines.price", some .sum⟩]
    sort := [some ⟨0, true⟩] }

/-- The column shows sums, and the sums are looked for among the single prices. -/
theorem sums_counted_by_price : ∃ (s : Compiled) (groups : Query) (t : Compiled),
    standard.compile totalsQuery = .ok s ∧
      totalsQuery.groupCounts [.int 5] false = .ok groups ∧
      standard.compile groups = .ok t ∧
      s.statement.select[1]? = some (.function "sum" [.column "lines" "price"]) ∧
      t.statement.select[0]? = some (.column "lines" "price") ∧
      t.statement.select[0]? ≠ s.statement.select[1]? ∧
      t.statement.groupBy = [.column "lines" "price"] ∧
      t.statement.conditions = [.in false (.column "lines" "price") "linesprice"] ∧
      t.parameters.list? "linesprice" = some [.int 5] := by
  refine ⟨_, _, _, rfl, rfl, rfl, rfl, rfl, ?_, rfl, rfl, rfl⟩
  intro h
  cases h

end Compiler

end ObjectQuery
