import ObjectQuery.Clause.Join

/-! The joins of a query bind each alias once, and each starts at an alias that is bound before. -/

namespace ObjectQuery

/-- Each join starts at a known alias or at one that an earlier join binds. -/
def Linked (known : List String) : List Join → Prop
  | [] => True
  | j :: rest => j.parent ∈ known ∧ Linked (known ++ [j.child]) rest

namespace Linked

variable {known more : List String} {js ks : List Join}

theorem mono (h : Linked known js) (hk : known ⊆ more) : Linked more js := by
  induction js generalizing known more with
  | nil => trivial
  | cons j js ih =>
    refine ⟨hk h.1, ih h.2 ?_⟩
    intro name hn
    rcases List.mem_append.mp hn with hn | hn
    · exact List.mem_append_left _ (hk hn)
    · exact List.mem_append_right _ hn

theorem append (h : Linked known js) (h' : Linked (known ++ js.map Join.child) ks) :
    Linked known (js ++ ks) := by
  induction js generalizing known with
  | nil => simpa using h'
  | cons j js ih =>
    refine ⟨h.1, ih h.2 ?_⟩
    simpa using h'

theorem parent_mem {earlier later : List Join} {j : Join}
    (h : Linked known (earlier ++ j :: later)) :
    j.parent ∈ known ∨ j.parent ∈ earlier.map Join.child := by
  induction earlier generalizing known with
  | nil => exact .inl h.1
  | cons k earlier ih =>
    rcases ih h.2 with hk | hk
    · rcases List.mem_append.mp hk with hk | hk
      · exact .inl hk
      · have he : j.parent = k.child := by simpa using hk
        exact .inr (by simp [he])
    · exact .inr (List.mem_cons_of_mem _ hk)

end Linked

namespace Joins

theorem add_of_mem {s : Joins} {j : Join} (h : j.child ∈ s.aliases.toList) : s.add j = s := by
  have hc : s.aliases.contains j.child = true := by simpa [AliasSet.contains] using h
  rw [add, if_pos hc]

theorem add_of_not_mem {s : Joins} {j : Join} (h : j.child ∉ s.aliases.toList) :
    (s.add j).aliases.toList = s.aliases.toList ++ [j.child] ∧
      (s.add j).joins = s.joins ++ [j] := by
  have hc : ¬ s.aliases.contains j.child = true := by simpa [AliasSet.contains] using h
  rw [add, if_neg hc, AliasSet.toList_insert, if_neg h]
  exact ⟨rfl, rfl⟩

theorem mem_add {s : Joins} {j : Join} {name : String} :
    name ∈ (s.add j).aliases.toList ↔ name ∈ s.aliases.toList ∨ name = j.child := by
  by_cases hc : j.child ∈ s.aliases.toList
  · rw [add_of_mem hc]
    constructor
    · exact .inl
    · rintro (hn | rfl)
      · exact hn
      · exact hc
  · rw [(add_of_not_mem hc).1, List.mem_append, List.mem_singleton]

theorem mem_foldl_add {s : Joins} {js : List Join} {name : String} :
    name ∈ (js.foldl add s).aliases.toList ↔
      name ∈ s.aliases.toList ∨ name ∈ js.map Join.child := by
  induction js generalizing s with
  | nil => simp
  | cons j js ih => rw [List.foldl_cons, ih, mem_add, List.map_cons, List.mem_cons, or_assoc]

theorem mem_joins_foldl_add {s : Joins} {js : List Join} {j : Join}
    (h : j ∈ (js.foldl add s).joins) : j ∈ s.joins ∨ j ∈ js := by
  induction js generalizing s with
  | nil => exact .inl h
  | cons k js ih =>
    rcases ih h with h | h
    · by_cases hc : k.child ∈ s.aliases.toList
      · rw [add_of_mem hc] at h
        exact .inl h
      · rw [(add_of_not_mem hc).2] at h
        rcases List.mem_append.mp h with h | h
        · exact .inl h
        · obtain rfl := List.mem_singleton.mp h
          exact .inr List.mem_cons_self
    · exact .inr (List.mem_cons_of_mem _ h)

theorem subset_foldl_add {s : Joins} {js : List Join} : s.joins ⊆ (js.foldl add s).joins := by
  induction js generalizing s with
  | nil => exact List.Subset.refl _
  | cons j js ih =>
    refine List.Subset.trans ?_ ih
    by_cases hc : j.child ∈ s.aliases.toList
    · rw [add_of_mem hc]
      exact List.Subset.refl _
    · rw [(add_of_not_mem hc).2]
      exact List.subset_append_left _ _

/-- The aliases are those of the root and of the joins, and every join starts at one of them. -/
structure Wired (root : String) (s : Joins) : Prop where
  aliases_eq : s.aliases.toList = root :: s.joins.map Join.child
  linked : Linked [root] s.joins

namespace Wired

variable {root : String} {s : Joins}

theorem of_root (root : String) : Wired root ⟨.of root, []⟩ :=
  ⟨rfl, trivial⟩

theorem add (h : s.Wired root) {j : Join} (hj : j.parent ∈ s.aliases.toList) :
    (s.add j).Wired root := by
  by_cases hc : j.child ∈ s.aliases.toList
  · rw [add_of_mem hc]
    exact h
  · obtain ⟨ha, hs⟩ := add_of_not_mem hc
    have hp : j.parent ∈ [root] ++ s.joins.map Join.child := by simpa [h.aliases_eq] using hj
    constructor
    · rw [ha, hs, h.aliases_eq, List.map_append]
      rfl
    · rw [hs]
      exact h.linked.append ⟨hp, trivial⟩

theorem foldl_add (h : s.Wired root) {js : List Join} (hj : Linked s.aliases.toList js) :
    (js.foldl Joins.add s).Wired root := by
  induction js generalizing s with
  | nil => exact h
  | cons j js ih =>
    refine ih (h.add hj.1) (hj.2.mono ?_)
    intro name hn
    rw [mem_add]
    simpa using hn

theorem nodup (h : s.Wired root) : (s.joins.map Join.child).Nodup := by
  have hnd := s.aliases.nodup
  rw [h.aliases_eq] at hnd
  exact (List.nodup_cons.mp hnd).2

theorem root_not_mem (h : s.Wired root) : root ∉ s.joins.map Join.child := by
  have hnd := s.aliases.nodup
  rw [h.aliases_eq] at hnd
  exact (List.nodup_cons.mp hnd).1

end Wired

end Joins

theorem ResolvedPath.linked_joins (root : String) (p : ResolvedPath) :
    Linked [root] (p.joins root) := by
  unfold joins
  split
  · induction p.hops with
    | zero => trivial
    | succ n ih =>
      rw [List.range_succ, List.map_append]
      refine ih.append ⟨?_, trivial⟩
      cases n with
      | zero => simp
      | succ n => simp [List.range_succ]
  · trivial

theorem linked_flatMap (resolver : Resolver) (paths : List String) :
    Linked [resolver.root]
      (paths.flatMap fun path => (resolver.resolve path).joins resolver.root) := by
  induction paths with
  | nil => trivial
  | cons path paths ih =>
    rw [List.flatMap_cons]
    exact ((resolver.resolve path).linked_joins _).append (ih.mono (List.subset_append_left _ _))

theorem Joins.ofPaths_append (resolver : Resolver) (paths more : List String) :
    Joins.ofPaths resolver (paths ++ more) =
      (more.flatMap fun path => (resolver.resolve path).joins resolver.root).foldl add
        (.ofPaths resolver paths) := by
  rw [ofPaths, ofPaths, List.flatMap_append, List.foldl_append]

theorem Joins.wired_ofPaths (resolver : Resolver) (paths : List String) :
    (Joins.ofPaths resolver paths).Wired resolver.root :=
  (Joins.Wired.of_root _).foldl_add (linked_flatMap resolver paths)

theorem Query.wired_joins (q : Query) (resolver : Resolver) :
    (q.joins resolver).Wired resolver.root :=
  Joins.wired_ofPaths resolver q.paths

/-- The alias of the entity that relations lead to; the root is where none are followed. -/
def aliasOf (root : String) (relations : List String) : String :=
  if relations.isEmpty then root else String.join relations

theorem aliasOf_append (root : String) (u : List String) (s : String) :
    aliasOf root (u ++ [s]) = String.join u ++ s := by
  rw [aliasOf, if_neg (by simp), String.join_append, String.join_cons, String.join_nil]
  simp

def Join.follow (root : String) (u : List String) (s : String) : Join :=
  ⟨aliasOf root u, s, aliasOf root (u ++ [s])⟩

namespace Resolver

def segments (resolver : Resolver) (path : String) : List String :=
  (resolver.resolve path).segments

def owner (resolver : Resolver) (path : String) : String :=
  (resolver.resolve path).owner

theorem owner_dotted (root path : String) :
    (dotted root).owner path = aliasOf root ((dotted root).segments path) := rfl

theorem joins_dotted (root path : String) :
    let segments := (dotted root).segments path
    ((dotted root).resolve path).joins root = (List.range segments.length).map fun n =>
      ⟨if n = 0 then root else String.join (segments.take n), segments.getD n "",
        String.join (segments.take (n + 1))⟩ := by
  intro segments
  have hr : ((dotted root).resolve path).isRelated = !segments.isEmpty := rfl
  by_cases hs : segments = []
  · rw [ResolvedPath.joins, hr, hs]
    rfl
  · rw [ResolvedPath.joins, hr, if_pos (by simpa using hs)]
    rfl

theorem aliasOf_take {root : String} {segments : List String} {n : Nat}
    (hn : n < segments.length) :
    aliasOf root (segments.take n) = if n = 0 then root else String.join (segments.take n) := by
  cases n with
  | zero => rfl
  | succ n =>
    have hs : segments.take (n + 1) ≠ [] := by
      rw [ne_eq, List.take_eq_nil_iff, ← List.length_eq_zero_iff]
      omega
    rw [aliasOf, if_neg (by simpa using hs), if_neg (by omega)]

theorem mem_joins_dotted {root path : String} {j : Join} :
    j ∈ ((dotted root).resolve path).joins root ↔
      ∃ u s, u ++ [s] <+: (dotted root).segments path ∧ j = .follow root u s := by
  rw [joins_dotted]
  generalize (dotted root).segments path = segments
  constructor
  · intro h
    obtain ⟨n, hn, rfl⟩ := List.mem_map.mp h
    have hn : n < segments.length := List.mem_range.mp hn
    have ht : segments.take n ++ [segments[n]] = segments.take (n + 1) :=
      List.take_append_getElem hn
    have hd : segments.getD n "" = segments[n] := by simp [hn]
    refine ⟨segments.take n, segments[n], ht ▸ List.take_prefix _ _, ?_⟩
    rw [Join.follow, aliasOf_append, aliasOf_take hn, hd, ← ht, String.join_append]
    simp
  · rintro ⟨u, s, ⟨rest, rfl⟩, rfl⟩
    have hl : u.length < (u ++ [s] ++ rest).length := by simp
    have hu : (u ++ [s] ++ rest).take u.length = u := by simp
    have hs : (u ++ [s] ++ rest).take (u.length + 1) = u ++ [s] := List.take_left' (by simp)
    refine List.mem_map.mpr ⟨u.length, List.mem_range.mpr hl, ?_⟩
    rw [Join.follow, aliasOf_append, ← aliasOf_take hl, hu, hs, String.join_append]
    simp

end Resolver

end ObjectQuery
