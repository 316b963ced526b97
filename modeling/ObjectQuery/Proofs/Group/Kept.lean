import ObjectQuery.Proofs.Group.Counting

/-! What the query that counts groups asks for. It can be compiled whenever its source can, and its
filter is the filter of the source together with a test for the values that were seen. -/

namespace ObjectQuery

/-- Whether a value is among those that were seen, or null where a null was. -/
def Store.seen (store : Store) (values : List Value) (hasNull : Bool) (x : Value) : Truth :=
  .any ((if values.isEmpty then [] else [store.membership x values]) ++
    if hasNull then [.ofBool x.isNull] else [])

theorem GroupMatch.truth_eq {path : String} {values : List Value} {hasNull : Bool}
    {r : Restriction} (h : GroupMatch path values hasNull r) (store : Store) (v : Valuation)
    (resolver : Resolver) :
    r.truth store v resolver =
      let p := resolver.resolve path
      store.seen values hasNull (v.valueOf p.owner p.field) := by
  cases h with
  | values hv => simp [Restriction.isIn, Restriction.truth, Operator.truth, Store.seen, hv,
      Truth.any_singleton]
  | null => simp [Restriction.eq, Restriction.truth, Operator.truth, Store.seen,
      Truth.any_singleton]
  | either hv =>
    simp [Restriction.anyOf, Restriction.isIn, Restriction.eq, Restriction.truth,
      Restriction.childTruths, Restriction.hasLeaf, Operator.truth, Store.seen, hv]

namespace Compiler

variable {names : Conventions} {root : String} {q : Query} {s : Compiled}

theorem validate_of_check (h : check q = .ok ()) : q.validate = .ok () := by
  obtain ⟨_, hvalid, _⟩ := bind_eq_ok h
  exact hvalid

theorem exists_primary {c : Compiler} (h : c.compile q = .ok s) (hsort : q.sort ≠ []) :
    ∃ primary, q.sort.head? = some (some primary) := by
  obtain ⟨_, hsorts, _⟩ := check_eq_ok_iff.mp (compile_rows h).1
  obtain ⟨sort, hs, _⟩ := Query.exists_descriptors hsorts
  cases sort with
  | nil => exact absurd hs hsort
  | cons primary rest => exact ⟨primary, by rw [hs]; rfl⟩

theorem orderBy_counting {values : List Value} {hasNull : Bool} {path : String} {ascending : Bool}
    {t : Compiled} {c : Compiler}
    (h : c.compile (q.counting path ascending values hasNull) = .ok t) :
    t.statement.orderBy = [⟨1, some (.ofAscending ascending)⟩, ⟨2, none⟩] := by
  obtain ⟨_, conditions, hrows⟩ := compile_rows h
  have hsort : (q.counting path ascending values hasNull).sort =
      [SortDescriptor.mk 0 ascending].map some := rfl
  have horder := rows_orderBy (c := c) hsort conditions
  rw [hrows, horder]
  rfl

/-- Groups of a compiled query that is sorted can be counted for whatever was seen in the sorted
column. Its filter is kept, and the test for what was seen stands beside it. -/
theorem groupCounts_kept {values : List Value} {hasNull : Bool}
    (h : (resolving names (.dotted root)).compile q = .ok s) (hsort : q.sort ≠ [])
    (hne : values ≠ [] ∨ hasNull = true) :
    ∃ primary column groups t, q.sort.head? = some (some primary) ∧
      q.columns[primary.column]? = some column ∧
      q.groupCounts values hasNull = .ok groups ∧ groups.validate = .ok () ∧
      (resolving names (.dotted root)).compile groups = .ok t ∧
      t.statement.select.length = 2 ∧
      t.statement.select[1]? = some (.call "count" false [.star]) ∧
      t.statement.orderBy = [⟨1, some (.ofAscending primary.ascending)⟩, ⟨2, none⟩] ∧
      ∃ (filter : Option Expr) (condition : Expr) (locale locale' : List Expr),
        s.statement.conditions = filter.toList ++ locale ∧
        locale.length = (q.localizedAliases names (.dotted root)).length ∧
        t.statement.conditions = condition :: locale' ∧
        locale'.length = (groups.localizedAliases names (.dotted root)).length ∧
        ∀ (store : Store) (v : Valuation),
          let p := (Resolver.dotted root).resolve column.path
          let kept := q.filterTruth store v (.dotted root)
          (filter.elim (some .yes) fun e => e.truth? store v root s.parameters) = some kept ∧
            condition.truth? store v root t.parameters =
              some (kept.and (store.seen values hasNull (v.valueOf p.owner p.field))) := by
  obtain ⟨primary, hprimary⟩ := exists_primary h hsort
  obtain ⟨column, hcolumn⟩ := exists_primary_column h hprimary
  obtain ⟨t, ht⟩ := exists_compile_counting h hne column.path primary.ascending
  obtain ⟨_, hselect, _⟩ := compile_parts ht
  rw [items_counting] at hselect
  obtain ⟨filter, locale, hconditions, hlimits, _, hfilter⟩ := compile_filterTruth h
  obtain ⟨condition?, locale', hconditions', hlimits', hleaf, hcondition⟩ := compile_filterTruth ht
  have hmatch := GroupMatch.of_groupMatch column.path hne
  -- The test for what was seen is a leaf, so the filter of the derived query says something.
  have hsome : condition?.isSome = true := by
    rw [hleaf, Query.counting, Option.any_some]
    exact Query.hasLeaf_counting hne
  obtain ⟨condition, rfl⟩ := Option.isSome_iff_exists.mp hsome
  refine ⟨primary, column, _, t, hprimary, hcolumn,
    Query.groupCounts_eq hprimary hcolumn values hasNull, validate_of_check (compile_rows ht).1, ht,
    by rw [hselect]; rfl, by rw [hselect]; rfl, orderBy_counting ht, filter, condition, locale,
    locale', hconditions, hlimits.length_eq.symm, hconditions', hlimits'.length_eq.symm, ?_⟩
  intro store v
  refine ⟨hfilter store v, ?_⟩
  have htruth := hcondition store v
  rwa [Option.elim_some, Query.filterTruth_counting store v _ hne, hmatch.truth_eq] at htruth

/-- The filter tests the sorted attribute already, and has a branch that says nothing. -/
def regionsQuery : Query :=
  { Query.ofEntity "Order" with
    columns := [⟨"code", none⟩, ⟨"customer.region", none⟩]
    filter := some (.or [some (.simple "customer.region" .like [.string "n%"]), none,
      some (.not (.and [])), some (.arbitrary "obj.archived")])
    sort := [some ⟨1, false⟩] }

theorem groupCounts_kept_regions : ∃ (groups : Query) (t : Compiled) (condition : Expr),
    regionsQuery.groupCounts [.string "north", .string "south"] true = .ok groups ∧
      standard.compile groups = .ok t ∧
      t.parameters.entries =
        [("customerregion", .scalar (.string "n%")),
          ("customerregion_1", .list [.string "north", .string "south"])] ∧
      t.statement.conditions = [condition] ∧
      ∀ (store : Store) (v : Valuation),
        condition.truth? store v "obj" t.parameters =
          some ((regionsQuery.filterTruth store v (.dotted "obj")).and
            (store.seen [.string "north", .string "south"] true
              (v.valueOf "customer" "region"))) := by
  obtain ⟨s, hs⟩ : ∃ s : Compiled, standard.compile regionsQuery = .ok s := ⟨_, rfl⟩
  have hvalues : [Value.string "north", Value.string "south"] ≠ [] ∨ true = true := .inr rfl
  obtain ⟨primary, column, groups, t, hprimary, hcolumn, hgroups, _, ht, _, _, _, _, condition, _,
    locale, _, _, hconditions, hlocale, htruth⟩ :=
    groupCounts_kept hs (List.cons_ne_nil _ _) hvalues
  obtain rfl : ⟨1, false⟩ = primary := Option.some.inj (Option.some.inj hprimary)
  obtain rfl : ⟨"customer.region", none⟩ = column := Option.some.inj hcolumn
  obtain rfl : regionsQuery.counting "customer.region" false
      [.string "north", .string "south"] true = groups := Except.ok.inj hgroups
  obtain rfl : [] = locale := (List.eq_nil_of_length_eq_zero hlocale).symm
  refine ⟨_, t, condition, hgroups, ht, ?_, hconditions, fun store v => ?_⟩
  · cases ht
    rfl
  · exact (htruth store v).2

end Compiler

end ObjectQuery
