import ObjectQuery.Proofs.Alias.Joins

/-! The joins of a query come in the order in which its paths first use their aliases. One pass over
the columns and the filter, with the aliases bound so far at hand, finds them. -/

namespace ObjectQuery

/-- The names that are not known, each where it is used first. -/
def firstUses (known names : List String) : List String :=
  (names.filter (· ∉ known)).eraseDups

section

variable {known names : List String} {name : String}

theorem firstUses_cons_of_mem (h : name ∈ known) :
    firstUses known (name :: names) = firstUses known names := by
  simp [firstUses, h]

theorem firstUses_cons_of_not_mem (h : name ∉ known) :
    firstUses known (name :: names) = name :: firstUses (known ++ [name]) names := by
  have hrest : (names.filter (· ∉ known)).filter (fun other => !other == name) =
      names.filter (· ∉ known ++ [name]) := by
    rw [List.filter_filter]
    apply List.filter_congr
    intro other _
    by_cases hk : other ∈ known <;> by_cases hn : other = name <;> simp [hk, hn]
  have hf : (name :: names).filter (· ∉ known) = name :: names.filter (· ∉ known) := by simp [h]
  rw [firstUses, hf, List.eraseDups_cons, hrest, firstUses]

end

namespace Restriction

section

variable {σ : Type} (step : σ → String → σ)

mutual

/-- Takes a step for the path of each simple restriction as it comes. -/
def visit : Restriction → σ → σ
  | .simple path _ _, s => step s path
  | .and children, s => visitChildren children s
  | .or children, s => visitChildren children s
  | .not child, s => child.visit s
  | .arbitrary _, s => s

def visitChildren : List (Option Restriction) → σ → σ
  | [], s => s
  | none :: rest, s => visitChildren rest s
  | some child :: rest, s => visitChildren rest (child.visit s)

end

mutual

theorem visit_eq_foldl : ∀ (r : Restriction) (s : σ), r.visit step s = r.paths.foldl step s
  | .simple _ _ _, _ | .arbitrary _, _ => rfl
  | .and children, s | .or children, s => visitChildren_eq_foldl children s
  | .not child, s => visit_eq_foldl child s

theorem visitChildren_eq_foldl : ∀ (children : List (Option Restriction)) (s : σ),
    visitChildren step children s = (childPaths children).foldl step s
  | [], _ => rfl
  | none :: rest, s => visitChildren_eq_foldl rest s
  | some child :: rest, s => by
    rw [visitChildren, childPaths, List.foldl_append, visit_eq_foldl child,
      visitChildren_eq_foldl rest]

end

end

end Restriction

/-- One pass over the columns and then over the filter. -/
def Query.visit {σ : Type} (q : Query) (step : σ → String → σ) (s : σ) : σ :=
  q.filter.elim id (Restriction.visit step) (q.columns.foldl (fun s c => step s c.path) s)

theorem Query.visit_eq_foldl {σ : Type} (q : Query) (step : σ → String → σ) (s : σ) :
    q.visit step s = q.paths.foldl step s := by
  have hcolumns : (q.columns.map Column.path).foldl step s =
      q.columns.foldl (fun s c => step s c.path) s := List.foldl_map
  rw [visit, paths, List.foldl_append, hcolumns]
  cases q.filter with
  | none => rfl
  | some r => exact r.visit_eq_foldl step _

namespace ResolvedPath

/-- The aliases behind one relation of the path, behind two and so on, in this order. -/
def prefixAliases (p : ResolvedPath) : List String :=
  if p.isRelated then (List.range' 1 p.hops).map p.aliasAfter else []

theorem map_child_joins (root : String) (p : ResolvedPath) :
    (p.joins root).map Join.child = p.prefixAliases := by
  unfold joins prefixAliases
  split
  · rw [List.map_map, List.range'_eq_map_range, List.map_map]
    apply List.map_congr_left
    intro n _
    simp [Nat.add_comm]
  · rfl

theorem mem_prefixAliases {p : ResolvedPath} {name : String} : name ∈ p.prefixAliases ↔
    p.isRelated = true ∧ ∃ n, 1 ≤ n ∧ n ≤ p.hops ∧ p.aliasAfter n = name := by
  unfold prefixAliases
  cases p.isRelated with
  | false => simp
  | true =>
    simp only [if_true, List.mem_map, List.mem_range'_1, true_and]
    constructor
    · rintro ⟨n, ⟨hpos, hlt⟩, hname⟩
      exact ⟨n, hpos, by omega, hname⟩
    · rintro ⟨n, hpos, hle, hname⟩
      exact ⟨n, ⟨hpos, by omega⟩, hname⟩

end ResolvedPath

namespace Joins

theorem toList_foldl_add (js : List Join) (s : Joins) :
    (js.foldl add s).aliases.toList =
      s.aliases.toList ++ firstUses s.aliases.toList (js.map Join.child) := by
  induction js generalizing s with
  | nil => simp [firstUses]
  | cons j js ih =>
    rw [List.foldl_cons, ih, List.map_cons]
    by_cases hj : j.child ∈ s.aliases.toList
    · rw [add_of_mem hj, firstUses_cons_of_mem hj]
    · rw [(add_of_not_mem hj).1, firstUses_cons_of_not_mem hj, List.append_assoc]
      rfl

theorem prefix_foldl_add (js : List Join) (s : Joins) : s.joins <+: (js.foldl add s).joins := by
  induction js generalizing s with
  | nil => exact List.prefix_refl _
  | cons j js ih =>
    have hstep : s.joins <+: (s.add j).joins := by
      by_cases hj : j.child ∈ s.aliases.toList
      · have hsame : (s.add j).joins = s.joins := by rw [add_of_mem hj]
        exact hsame ▸ List.prefix_refl _
      · rw [(add_of_not_mem hj).2]
        exact List.prefix_append _ _
    exact hstep.trans (ih (s.add j))

end Joins

namespace Query

variable (q : Query) (resolver : Resolver)

/-- The aliases along the paths of the columns and then along those of the filter, as often as they
are used. -/
def prefixAliases : List String :=
  q.paths.flatMap fun path => (resolver.resolve path).prefixAliases

theorem map_child_flatMap_joins (paths : List String) :
    (paths.flatMap fun path => (resolver.resolve path).joins resolver.root).map Join.child =
      paths.flatMap fun path => (resolver.resolve path).prefixAliases := by
  rw [List.map_flatMap]
  congr 1
  funext path
  exact (resolver.resolve path).map_child_joins resolver.root

theorem map_child_joins :
    (q.joins resolver).joins.map Join.child =
      ((q.prefixAliases resolver).filter (· ≠ resolver.root)).eraseDups := by
  have hwired := (q.wired_joins resolver).aliases_eq
  have hfold := Joins.toList_foldl_add
    (q.paths.flatMap fun path => (resolver.resolve path).joins resolver.root)
    ⟨.of resolver.root, []⟩
  have hroot : (AliasSet.of resolver.root).toList = [resolver.root] := rfl
  rw [map_child_flatMap_joins, hroot] at hfold
  have hcons : resolver.root :: (q.joins resolver).joins.map Join.child =
      resolver.root :: firstUses [resolver.root] (q.prefixAliases resolver) :=
    hwired.symm.trans hfold
  rw [(List.cons.inj hcons).2]
  simp [firstUses]

theorem visit_eq_joins :
    q.visit (fun s path => ((resolver.resolve path).joins resolver.root).foldl Joins.add s)
      ⟨.of resolver.root, []⟩ = q.joins resolver := by
  rw [visit_eq_foldl, joins, Joins.ofPaths, List.foldl_flatMap]

theorem joins_prefix :
    ({ q with filter := none }.joins resolver).joins <+: (q.joins resolver).joins := by
  have hcolumns : ({ q with filter := none } : Query).paths = q.columns.map Column.path := by
    simp [paths]
  rw [joins, joins, hcolumns, paths, Joins.ofPaths_append]
  exact Joins.prefix_foldl_add _ _

/-- A query joins exactly the aliases along its paths, the root apart, each once and in the order of
their first use. The filter only adds joins behind those of the columns, and none is made for an
alias that no path leads over. -/
theorem joins_firstUse :
    (q.joins resolver).joins.map Join.child =
      ((q.prefixAliases resolver).filter (· ≠ resolver.root)).eraseDups ∧
    (q.joins resolver).aliases.toList =
      resolver.root :: (q.joins resolver).joins.map Join.child ∧
    q.visit (fun s path => ((resolver.resolve path).joins resolver.root).foldl Joins.add s)
      ⟨.of resolver.root, []⟩ = q.joins resolver ∧
    ({ q with filter := none }.joins resolver).joins <+: (q.joins resolver).joins ∧
    ∀ j ∈ (q.joins resolver).joins, ∃ path ∈ q.paths, (resolver.resolve path).isRelated = true ∧
      ∃ n, 1 ≤ n ∧ n ≤ (resolver.resolve path).hops ∧
        (resolver.resolve path).aliasAfter n = j.child := by
  have hchildren := q.map_child_joins resolver
  refine ⟨hchildren, (q.wired_joins resolver).aliases_eq, q.visit_eq_joins resolver,
    q.joins_prefix resolver, ?_⟩
  intro j hj
  have hchild : j.child ∈ (q.joins resolver).joins.map Join.child := List.mem_map_of_mem hj
  rw [hchildren, List.mem_eraseDups] at hchild
  have hused : j.child ∈ q.prefixAliases resolver := (List.mem_filter.mp hchild).1
  obtain ⟨path, hpath, hname⟩ := List.mem_flatMap.mp hused
  exact ⟨path, hpath, ResolvedPath.mem_prefixAliases.mp hname⟩

/-- The filter takes over two aliases of the columns, and leads over a relation with the name of the
root. -/
def crossingQuery : Query :=
  { Query.ofEntity "Order" with
    columns := [⟨"customer.address.city", none⟩, ⟨"lines.quantity", some .sum⟩]
    filter := some (.or [some (.eq "lines.product.code" (.string "A")), none,
      some (.not (.and [some (.eq "obj.code" .null), some (.arbitrary "carrier.name = 'x'"),
        some (.eq "customer.address.zip" (.string "1"))])), some (.eq "tax.rate" (.int 1))]) }

theorem joins_firstUse_crossing :
    (crossingQuery.joins (.dotted "obj")).joins.map Join.child =
      ["customer", "customeraddress", "lines", "linesproduct", "tax"] ∧
    ⟨"lines", "product", "linesproduct"⟩ ∈ (crossingQuery.joins (.dotted "obj")).joins ∧
    ∃ path ∈ crossingQuery.paths, ((Resolver.dotted "obj").resolve path).isRelated = true ∧
      ∃ n, 1 ≤ n ∧ n ≤ ((Resolver.dotted "obj").resolve path).hops ∧
        ((Resolver.dotted "obj").resolve path).aliasAfter n = "linesproduct" := by
  have hmem : (⟨"lines", "product", "linesproduct"⟩ : Join) ∈
      (crossingQuery.joins (.dotted "obj")).joins := by decide
  exact ⟨by decide, hmem, (crossingQuery.joins_firstUse (.dotted "obj")).2.2.2.2 _ hmem⟩

end Query

end ObjectQuery
