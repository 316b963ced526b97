import ObjectQuery.Proofs.Alias.Joins
import ObjectQuery.Proofs.Compiler.Parts
import ObjectQuery.Proofs.Filter.Run
import ObjectQuery.Proofs.Statement.Gather

/-! Every column of a compiled statement belongs to an alias that is bound in it: the columns are
those of the paths of the query, and the joins bind an alias for each of these. -/

namespace ObjectQuery

def Expr.owner : Expr → List String
  | .column owner _ => [owner]
  | _ => []

def Statement.owners (s : Statement) : List String :=
  s.gather Expr.owner

open ObjectQuery.Expr (gatherOf)

theorem append_subset_append {as bs cs ds : List String} (h : as ⊆ cs) (h' : bs ⊆ ds) :
    as ++ bs ⊆ cs ++ ds :=
  List.append_subset.mpr
    ⟨List.subset_append_of_subset_left _ h, List.subset_append_of_subset_right _ h'⟩

theorem ResolvedPath.owner_expr (p : ResolvedPath) : p.expr.gather Expr.owner ⊆ [p.owner] := by
  unfold ResolvedPath.expr
  split
  · exact List.nil_subset _
  · exact List.Subset.refl _

theorem ValueCondition.owner_eq {target e : Expr} {base : String} {operator : Operator}
    {values : List Value} {b b' : Bindings}
    (h : ValueCondition target base b operator values e b') :
    e.gather Expr.owner = target.gather Expr.owner := by
  cases h <;> simp only [Expr.gather, Expr.owner, List.append_nil]

theorem ownerLaw (resolver : Resolver) :
    FilterLaw resolver
      (fun r _ o _ => gatherOf Expr.owner o.toList ⊆ r.paths.map resolver.owner)
      (fun children _ es _ =>
        gatherOf Expr.owner es ⊆ (Restriction.childPaths children).map resolver.owner) where
  simple h := by
    simp only [Option.toList_some, gatherOf, List.append_nil, h.owner_eq]
    exact ResolvedPath.owner_expr _
  and h := by
    rw [Expr.gatherOf_combine (fun _ => rfl) fun _ => List.append_nil _]
    exact h
  or h := by
    rw [Expr.gatherOf_combine (fun _ => rfl) fun _ => List.append_nil _]
    exact h
  not {_ _ inner _} h := by
    cases inner with
    | none => exact h
    | some e =>
      have hp := e.gather_parenthesized fun f => (rfl : Expr.owner (.paren f) = [])
      simpa only [Option.map_some, Option.toList_some, gatherOf, Expr.gather, Expr.owner, hp,
        List.append_nil, Restriction.paths] using h
  arbitrary {_ _} := List.nil_subset _
  nil {_} := List.nil_subset _
  gap h := h
  child _ _ h h' := by
    rw [Expr.gatherOf_append, Restriction.childPaths, List.map_append]
    exact append_subset_append h h'

theorem owner_localeCondition (names : Conventions) (codes : List String) (owner : String)
    (b : Bindings) : (localeCondition names codes owner b).1.gather Expr.owner ⊆ [owner] := by
  unfold localeCondition
  split <;> simp [Expr.gather, gatherOf, Expr.owner]

theorem owner_localeConditions (names : Conventions) (codes : List String)
    (owners : List String) (b : Bindings) :
    gatherOf Expr.owner (localeConditions names codes owners b).1 ⊆ owners := by
  induction owners generalizing b with
  | nil => exact List.nil_subset _
  | cons owner rest ih =>
    exact append_subset_append (owner_localeCondition names codes owner b) (ih _)

theorem Column.owner_item (names : Conventions) (resolver : Resolver) (c : Column) :
    (c.item names resolver).gather Expr.owner ⊆ [resolver.owner c.path] := by
  have hp := (resolver.resolve c.path).owner_expr
  unfold Column.item
  split <;> simpa [Expr.function, Expr.localized, Expr.localeKey, Expr.gather, gatherOf,
    Expr.owner, Resolver.owner] using hp

namespace Query

variable (names : Conventions) (resolver : Resolver) (q : Query)

theorem owner_column_mem {c : Column} (hc : c ∈ q.columns) :
    resolver.owner c.path ∈ q.paths.map resolver.owner :=
  List.mem_map_of_mem (List.mem_append_left _ (List.mem_map_of_mem hc))

theorem localizedAliases_subset :
    q.localizedAliases names resolver ⊆ q.paths.map resolver.owner := by
  intro owner ho
  rw [localizedAliases, List.mem_eraseDups] at ho
  obtain ⟨p, hp, rfl⟩ := List.mem_map.mp ho
  rcases List.mem_append.mp hp with hp | hp
  · obtain ⟨c, hc, rfl⟩ := List.mem_map.mp hp
    exact q.owner_column_mem resolver (List.mem_filter.mp hc |>.1)
  · obtain ⟨path, hpath, rfl⟩ := List.mem_map.mp (List.mem_filter.mp hp |>.1)
    exact List.mem_map_of_mem (List.mem_append_right _ hpath)

theorem owner_items :
    gatherOf Expr.owner (q.items names resolver) ⊆
      resolver.root :: q.paths.map resolver.owner := by
  intro owner ho
  obtain ⟨e, he, ho⟩ := Expr.mem_gatherOf.mp ho
  rcases mem_items he with rfl | ⟨c, hc, rfl⟩
  · have hid : (q.idItem names resolver).gather Expr.owner = [resolver.root] := by
      unfold idItem
      split <;> rfl
    rw [hid] at ho
    exact List.mem_cons.mpr (.inl (List.mem_singleton.mp ho))
  · obtain rfl := List.mem_singleton.mp (c.owner_item names resolver ho)
    exact List.mem_cons_of_mem _ (q.owner_column_mem resolver hc)

theorem owner_groupKeys :
    gatherOf Expr.owner (q.groupKeys names resolver) ⊆
      resolver.root :: q.paths.map resolver.owner := by
  intro owner ho
  obtain ⟨e, he, ho⟩ := Expr.mem_gatherOf.mp ho
  rcases mem_groupKeys he with rfl | ⟨c, hc, rfl⟩
  · exact List.mem_cons.mpr (.inl (List.mem_singleton.mp ho))
  · obtain rfl : owner = resolver.owner c.path := List.mem_singleton.mp ho
    exact List.mem_cons_of_mem _ (q.owner_column_mem resolver hc)

end Query

theorem aliasOf_mem_aliases {root path : String} {paths : List String} (hp : path ∈ paths)
    {u : List String} (hu : u <+: (Resolver.dotted root).segments path) :
    aliasOf root u ∈ (Joins.ofPaths (.dotted root) paths).aliases.toList := by
  rw [Joins.ofPaths, Joins.mem_foldl_add]
  rcases List.eq_nil_or_concat u with rfl | ⟨u, s, rfl⟩
  · exact .inl List.mem_cons_self
  · rw [List.concat_eq_append] at hu ⊢
    have hj := Resolver.mem_joins_dotted.mpr ⟨u, s, hu, rfl⟩
    exact .inr (List.mem_map.mpr ⟨_, List.mem_flatMap_of_mem hp hj, rfl⟩)

namespace Compiler

variable {names : Conventions}

theorem owner_conditions {resolver : Resolver} {q : Query} {es : List Expr} {b : Bindings}
    (h : (resolving names resolver).conditions q = .ok (es, b)) :
    gatherOf Expr.owner es ⊆ q.paths.map resolver.owner := by
  obtain ⟨filter, b₁, hf, rfl, rfl⟩ := conditions_parts h
  rw [Expr.gatherOf_append]
  apply List.append_subset.mpr
  constructor
  · refine List.Subset.trans ((ownerLaw resolver).filter hf) (List.map_subset _ ?_)
    cases hq : q.filter with
    | none => exact List.nil_subset _
    | some r =>
      rw [Query.paths, hq]
      exact List.subset_append_right _ _
  · exact List.Subset.trans (owner_localeConditions _ _ _ b₁)
      (q.localizedAliases_subset names resolver)

theorem owners_subset {resolver : Resolver} {q : Query} {s : Compiled}
    (h : (resolving names resolver).compile q = .ok s ∨
      (resolving names resolver).compileCount q = .ok s) :
    s.statement.owners ⊆ resolver.root :: q.paths.map resolver.owner := by
  rcases h with h | h
  · obtain ⟨hs, hselect, hgroup⟩ := compile_parts h
    rw [Statement.owners, Statement.gather, hselect, hgroup]
    refine List.append_subset.mpr ⟨List.append_subset.mpr ⟨q.owner_items names resolver, ?_⟩,
      q.owner_groupKeys names resolver⟩
    exact List.subset_cons_of_subset _ (owner_conditions hs.conditions)
  · obtain ⟨hs, hselect, hgroup⟩ := compileCount_parts h
    rw [Statement.owners, Statement.gather, hselect, hgroup]
    refine List.append_subset.mpr ⟨List.append_subset.mpr ⟨?_, ?_⟩, List.nil_subset _⟩
    · intro owner ho
      exact List.mem_cons.mpr (.inl (List.mem_singleton.mp ho))
    · exact List.subset_cons_of_subset _ (owner_conditions hs.conditions)

theorem joins_eq {c : Compiler} {q : Query} {s : Compiled}
    (h : c.compile q = .ok s ∨ c.compileCount q = .ok s) :
    s.statement.joins = (q.joins c.resolver).joins := by
  rcases h with h | h
  · exact (compile_parts h).1.joins
  · exact (compileCount_parts h).1.joins

/-- A column of a statement belongs to the root or to an alias that one of the joins binds; each
alias is bound once, behind the one its relation starts at. -/
theorem compile_scope_closed {root : String} {q : Query} {s : Compiled}
    (h : (resolving names (.dotted root)).compile q = .ok s ∨
      (resolving names (.dotted root)).compileCount q = .ok s) :
    (s.statement.joins.map Join.child).Nodup ∧ root ∉ s.statement.joins.map Join.child ∧
      (∀ earlier j later, s.statement.joins = earlier ++ j :: later →
        j.parent = root ∨ j.parent ∈ earlier.map Join.child) ∧
      ∀ owner ∈ s.statement.owners,
        owner = root ∨ owner ∈ s.statement.joins.map Join.child := by
  have hw := q.wired_joins (.dotted root)
  rw [joins_eq h]
  refine ⟨hw.nodup, hw.root_not_mem, ?_, ?_⟩
  · intro earlier j later hj
    have hl := hw.linked
    rw [hj] at hl
    rcases hl.parent_mem with hp | hp
    · exact .inl (List.mem_singleton.mp hp)
    · exact .inr hp
  · intro owner ho
    rcases List.mem_cons.mp (owners_subset h ho) with ho | ho
    · exact .inl ho
    · obtain ⟨path, hpath, rfl⟩ := List.mem_map.mp ho
      have ha : aliasOf root ((Resolver.dotted root).segments path) ∈
          (q.joins (.dotted root)).aliases.toList := aliasOf_mem_aliases hpath (List.prefix_refl _)
      rw [hw.aliases_eq] at ha
      exact List.mem_cons.mp ha

/-- Columns and a filter share prefixes of their paths, and one relation is called like the root. -/
def sharingQuery : Query where
  entity := "Order"
  columns := [⟨"lines.product.name", none⟩, ⟨"lines.quantity", some .sum⟩,
    ⟨"lines.product.localeData.title", some .locale⟩, ⟨"obj.code", some .max⟩]
  filter := some (.or [none, some (.not (.and [some (.eq "customer.localeData.city" .null),
    some (.eq "lines.product.name" (.string "x"))]))])
  sort := []
  locale := ⟨"en", "", ""⟩
  includeId := true
  distinctId := true
  totalCount := false

theorem compile_scope_closed_sharing : ∃ s : Compiled,
    (resolving .standard (.dotted "obj")).compile sharingQuery = .ok s ∧
      s.statement.joins.map Join.child = ["lines", "linesproduct", "linesproductlocaleData",
        "customer", "customerlocaleData"] ∧
      ∀ owner ∈ s.statement.owners, owner = "obj" ∨ owner ∈ s.statement.joins.map Join.child := by
  obtain ⟨s, hs, hj⟩ : ∃ s : Compiled,
      (resolving .standard (.dotted "obj")).compile sharingQuery = .ok s ∧
        s.statement.joins.map Join.child = ["lines", "linesproduct", "linesproductlocaleData",
          "customer", "customerlocaleData"] := ⟨_, rfl, rfl⟩
  exact ⟨s, hs, hj, (compile_scope_closed (.inl hs)).2.2.2⟩

end Compiler

end ObjectQuery
