import ObjectQuery.Proofs.Group.Counting
import ObjectQuery.Proofs.Localized.BestMatch

/-! Which rows are counted for the groups of a query. The filter of the query is kept, and so are
the locale conditions that the filter asks for. A locale column is left out of the count, and so is
its condition, unless the filter or the sorted attribute asks for the same one. -/

namespace ObjectQuery

/-- Behind the condition of the filter stands a locale condition for each of the aliases. -/
def Compiled.LimitsRows (names : Conventions) (codes owners : List String) (s : Compiled) : Prop :=
  ∃ (filter : Option Expr) (locale : List Expr),
    s.statement.conditions = filter.toList ++ locale ∧
      List.Forall₂ (fun owner e => e.Limits names s.parameters owner codes) owners locale

namespace Query

variable {names : Conventions} {resolver : Resolver} {q : Query} {values : List Value}
  {hasNull : Bool}

theorem mem_localizedAliases_counting (hne : values ≠ [] ∨ hasNull = true) (path : String)
    (ascending : Bool) {owner : String} :
    owner ∈ (q.counting path ascending values hasNull).localizedAliases names resolver ↔
      ∃ other ∈ path :: q.filter.elim [] Restriction.paths,
        (resolver.resolve other).isLocalized names = true ∧
          (resolver.resolve other).owner = owner := by
  have hmatch := GroupMatch.of_groupMatch path hne
  have hcolumns : ∀ c ∈ (q.counting path ascending values hasNull).columns,
      c.aggregate ≠ some .locale := by
    intro c hc
    simp only [counting, List.mem_cons, List.not_mem_nil, or_false] at hc
    rcases hc with rfl | rfl <;> simp
  rw [mem_localizedAliases, paths_counting]
  constructor
  · rintro (⟨c, hc, hlocale, _⟩ | ⟨other, hother, hlocalized, howner⟩)
    · exact absurd hlocale (hcolumns c hc)
    · refine ⟨other, ?_, hlocalized, howner⟩
      rcases List.mem_append.mp hother with hfilter | hpath
      · exact List.mem_cons_of_mem _ hfilter
      · rw [hmatch.mem_paths.mp hpath]
        exact List.mem_cons_self
  · rintro ⟨other, hother, hlocalized, howner⟩
    refine .inr ⟨other, List.mem_append.mpr ?_, hlocalized, howner⟩
    rcases List.mem_cons.mp hother with rfl | hfilter
    · exact .inr (hmatch.mem_paths.mpr rfl)
    · exact .inl hfilter

end Query

namespace Compiler

variable {names : Conventions} {root : String} {q : Query} {s : Compiled}
  {primary : SortDescriptor} {values : List Value} {hasNull : Bool}

theorem compile_limitsRows {resolver : Resolver}
    (h : (resolving names resolver).compile q = .ok s) :
    s.LimitsRows names q.locale.fallback (q.localizedAliases names resolver) := by
  obtain ⟨filter, _, locale, _, _, hconditions, hlimits⟩ := compile_limits h
  exact ⟨filter, locale, hconditions, hlimits⟩

/-- A row that is counted is one of the query, but for the conditions that were left out. -/
theorem truth?_of_counting {path : String} {ascending : Bool} {t : Compiled}
    (h : (resolving names (.dotted root)).compile q = .ok s)
    (ht : (resolving names (.dotted root)).compile (q.counting path ascending values hasNull) =
      .ok t)
    (hne : values ≠ [] ∨ hasNull = true) {store : Store} {v : Valuation}
    (hcounted : t.truth? store v = some .yes)
    (hrest : ∀ owner ∈ q.localizedAliases names (.dotted root),
      owner ∉ (q.counting path ascending values hasNull).localizedAliases names (.dotted root) →
      store.admits q.locale.fallback (v.valueOf owner names.localeField) = .yes) :
    s.truth? store v = some .yes := by
  rw [compile_truth ht, Option.some_inj, Truth.and_eq_yes, Query.filterTruth_counting store v _ hne,
    Truth.and_eq_yes] at hcounted
  obtain ⟨⟨hfilter, _⟩, hlocale⟩ := hcounted
  rw [compile_truth h, Option.some_inj, Truth.and_eq_yes]
  refine ⟨hfilter, Truth.all_eq_yes.mpr fun truth htruth => ?_⟩
  obtain ⟨owner, howner, rfl⟩ := List.mem_map.mp htruth
  by_cases hkept :
      owner ∈ (q.counting path ascending values hasNull).localizedAliases names (.dotted root)
  · exact Truth.all_eq_yes.mp hlocale _ (List.mem_map_of_mem hkept)
  · exact hrest owner howner hkept

/-- The locale conditions of a query are those of its counted groups but for the locale columns
whose rows neither a localized path of the filter nor the sorted attribute leads to. What the
groups admit is admitted by the query, if what is left out admits it too. -/
theorem groupCounts_admitted (h : (resolving names (.dotted root)).compile q = .ok s)
    (hsort : q.sort.head? = some (some primary)) (hne : values ≠ [] ∨ hasNull = true) :
    ∃ column groups t, q.columns[primary.column]? = some column ∧
      q.groupCounts values hasNull = .ok groups ∧
      (resolving names (.dotted root)).compile groups = .ok t ∧
      let resolve := (Resolver.dotted root).resolve
      let owners := q.localizedAliases names (.dotted root)
      let kept := groups.localizedAliases names (.dotted root)
      s.LimitsRows names q.locale.fallback owners ∧
      t.LimitsRows names q.locale.fallback kept ∧
      (∀ owner ∈ owners, owner ∈ kept ↔
        ∃ path ∈ column.path :: q.filter.elim [] Restriction.paths,
          (resolve path).isLocalized names = true ∧ (resolve path).owner = owner) ∧
      (∀ owner ∈ owners, owner ∉ kept →
        ∃ c ∈ q.columns, c.aggregate = some .locale ∧ (resolve c.path).owner = owner) ∧
      ∀ (store : Store) (v : Valuation), t.truth? store v = some .yes →
        (∀ owner ∈ owners, owner ∉ kept →
          store.admits q.locale.fallback (v.valueOf owner names.localeField) = .yes) →
        s.truth? store v = some .yes := by
  obtain ⟨column, hcolumn⟩ := exists_primary_column h hsort
  obtain ⟨t, ht⟩ := exists_compile_counting h hne column.path primary.ascending
  refine ⟨column, _, t, hcolumn, Query.groupCounts_eq hsort hcolumn values hasNull, ht,
    compile_limitsRows h, compile_limitsRows ht, ?_, ?_, ?_⟩
  · intro owner _
    exact Query.mem_localizedAliases_counting hne column.path primary.ascending
  · intro owner howner hdropped
    rcases Query.mem_localizedAliases.mp howner with hcolumn | ⟨path, hpath, hlocalized⟩
    · exact hcolumn
    · exact absurd ((Query.mem_localizedAliases_counting hne column.path primary.ascending).mpr
        ⟨path, List.mem_cons_of_mem _ hpath, hlocalized⟩) hdropped
  · intro store v hcounted hrest
    exact truth?_of_counting h ht hne hcounted hrest

def namedProductsQuery : Query :=
  { Query.ofEntity "Product" with
    columns := [⟨"code", none⟩, ⟨"localeData.name", some .locale⟩]
    sort := [some ⟨0, true⟩]
    locale := ⟨"en", "", ""⟩ }

def redProductsQuery : Query :=
  { namedProductsQuery with filter := some (.eq "localeData.title" (.string "Red")) }

/-- With a filter on localized rows nothing is left out. -/
theorem groupCounts_admitted_red : ∃ (s : Compiled) (groups : Query) (t : Compiled),
    standard.compile redProductsQuery = .ok s ∧
      redProductsQuery.groupCounts [.string "A"] false = .ok groups ∧
      standard.compile groups = .ok t ∧
      s.LimitsRows .standard ["en"] ["localeData"] ∧ t.LimitsRows .standard ["en"] ["localeData"] ∧
      ∀ (store : Store) (v : Valuation),
        t.truth? store v = some .yes → s.truth? store v = some .yes := by
  obtain ⟨s, hs⟩ : ∃ s : Compiled, standard.compile redProductsQuery = .ok s := ⟨_, rfl⟩
  have hvalues : [Value.string "A"] ≠ [] ∨ false = true := .inl (List.cons_ne_nil _ _)
  obtain ⟨column, groups, t, hcolumn, hgroups, ht, hlimits, hlimits', hkept, _, hadmits⟩ :=
    groupCounts_admitted hs rfl hvalues
  obtain rfl : ⟨"code", none⟩ = column := Option.some.inj hcolumn
  obtain rfl : redProductsQuery.counting "code" true [.string "A"] false = groups :=
    Except.ok.inj hgroups
  refine ⟨s, _, t, hs, hgroups, ht, hlimits, hlimits', fun store v hcounted => ?_⟩
  refine hadmits store v hcounted fun owner howner hdropped => ?_
  have howner : owner ∈ ["localeData"] := howner
  obtain rfl := List.mem_singleton.mp howner
  exact absurd ((hkept _ howner).mpr ⟨"localeData.title", by decide, rfl, rfl⟩) hdropped

def germanRow : Valuation where
  valueOf
    | "obj", "code" => .string "A"
    | "localeData", "locale" => .string "de"
    | _, _ => .null
  truthOf _ := .unknown

/-- A row is counted for its code, and has no English name. -/
theorem other_locale_counted :
    ∃ (s : Compiled) (groups : Query) (t : Compiled),
      standard.compile namedProductsQuery = .ok s ∧
      namedProductsQuery.groupCounts [.string "A"] false = .ok groups ∧
      standard.compile groups = .ok t ∧
      s.LimitsRows .standard ["en"] ["localeData"] ∧
      t.statement.conditions = [.in false (.column "obj" "code") "objcode"] ∧
      t.truth? titleStore germanRow = some .yes ∧ s.truth? titleStore germanRow = some .no := by
  obtain ⟨s, hs⟩ : ∃ s : Compiled, standard.compile namedProductsQuery = .ok s := ⟨_, rfl⟩
  refine ⟨s, _, _, hs, rfl, rfl, compile_limitsRows hs, rfl, ?_, ?_⟩
  · decide
  · cases hs
    decide

end Compiler

end ObjectQuery
