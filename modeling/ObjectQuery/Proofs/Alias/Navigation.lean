import Mathlib.Data.List.Induction
import Mathlib.Data.List.Infix
import Mathlib.Data.List.Nodup
import ObjectQuery.Proofs.Alias.Scope

/-! Where the joins of a query lead. An alias is followed back to the root from join to join, and
what is read off are the relations of the path it stands for, unless two prefixes of the query's
paths run together into one alias. -/

namespace ObjectQuery

/-- The joins connect the root with an alias over a list of relations. -/
inductive Leads (root : String) (joins : List Join) : String → List String → Prop where
  | root : Leads root joins root []
  | join {j : Join} {trail : List String} (hj : j ∈ joins) (h : Leads root joins j.parent trail) :
      Leads root joins j.child (trail ++ [j.relation])

theorem Leads.mono {root name : String} {js ks : List Join} {trail : List String}
    (h : Leads root js name trail) (hs : js ⊆ ks) : Leads root ks name trail := by
  induction h with
  | root => exact .root
  | join hj _ ih => exact .join (hs hj) ih

theorem Linked.exists_leads {root : String} {known : List String} {js ks : List Join}
    (h : Linked known js) (hs : js ⊆ ks) (hk : ∀ name ∈ known, ∃ trail, Leads root ks name trail)
    {name : String} (hn : name ∈ js.map Join.child) : ∃ trail, Leads root ks name trail := by
  induction js generalizing known with
  | nil => simp at hn
  | cons j js ih =>
    obtain ⟨trail, hl⟩ := hk _ h.1
    have hj : Leads root ks j.child (trail ++ [j.relation]) := .join (hs List.mem_cons_self) hl
    rcases List.mem_cons.mp hn with rfl | hn
    · exact ⟨_, hj⟩
    · refine ih h.2 (fun k hk => hs (List.mem_cons_of_mem _ hk)) ?_ hn
      intro other ho
      rcases List.mem_append.mp ho with ho | ho
      · exact hk other ho
      · obtain rfl := List.mem_singleton.mp ho
        exact ⟨_, hj⟩

namespace Joins.Wired

variable {root : String} {s : Joins}

theorem leads_root (hw : s.Wired root) {trail : List String}
    (h : Leads root s.joins root trail) : trail = [] := by
  generalize ha : root = name at h
  cases h with
  | root => rfl
  | join hj h =>
    subst ha
    exact absurd (List.mem_map_of_mem hj) hw.root_not_mem

theorem eq_of_child_eq (hw : s.Wired root) {j k : Join} (hj : j ∈ s.joins) (hk : k ∈ s.joins)
    (h : j.child = k.child) : j = k :=
  List.inj_on_of_nodup_map hw.nodup hj hk h

theorem leads_unique (hw : s.Wired root) {name : String} {t t' : List String}
    (h : Leads root s.joins name t) (h' : Leads root s.joins name t') : t = t' := by
  induction h generalizing t' with
  | root => exact (hw.leads_root h').symm
  | @join j t hj _ ih =>
    generalize ha : j.child = name at h'
    cases h' with
    | root =>
      have hm : j.child ∈ s.joins.map Join.child := List.mem_map_of_mem hj
      exact absurd (ha ▸ hm) hw.root_not_mem
    | @join k t' hk h' =>
      obtain rfl := hw.eq_of_child_eq hj hk ha
      rw [ih h']

theorem exists_leads (hw : s.Wired root) {name : String} (hn : name ∈ s.aliases.toList) :
    ∃ trail, Leads root s.joins name trail := by
  rw [hw.aliases_eq] at hn
  rcases List.mem_cons.mp hn with rfl | hn
  · exact ⟨[], .root⟩
  · refine hw.linked.exists_leads (List.Subset.refl _) ?_ hn
    intro known hk
    obtain rfl := List.mem_singleton.mp hk
    exact ⟨[], .root⟩

theorem leads_foldl_add (hw : s.Wired root) {js : List Join}
    (hw' : (js.foldl Joins.add s).Wired root) {name : String} (hn : name ∈ s.aliases.toList)
    {trail : List String} :
    Leads root (js.foldl Joins.add s).joins name trail ↔ Leads root s.joins name trail := by
  have hsub : s.joins ⊆ (js.foldl Joins.add s).joins := subset_foldl_add
  constructor
  · intro h
    obtain ⟨trail', h'⟩ := hw.exists_leads hn
    obtain rfl := hw'.leads_unique h (h'.mono hsub)
    exact h'
  · intro h
    exact h.mono hsub

end Joins.Wired

namespace Query

def relationPrefixes (q : Query) (resolver : Resolver) : List (List String) :=
  q.paths.flatMap fun path => (resolver.segments path).inits

/-- No two ways from the root have an alias in common. -/
def Unambiguous (q : Query) (root : String) : Prop :=
  ∀ u ∈ q.relationPrefixes (.dotted root), ∀ v ∈ q.relationPrefixes (.dotted root),
    aliasOf root u = aliasOf root v → u = v

instance (q : Query) (root : String) : Decidable (q.Unambiguous root) :=
  inferInstanceAs (Decidable (∀ u ∈ _, ∀ v ∈ _, _ → _))

/-- The joins connect the root with the owner of a path's field over a list of relations. -/
def Navigates (q : Query) (root path : String) (trail : List String) : Prop :=
  Leads root (q.joins (.dotted root)).joins ((Resolver.dotted root).owner path) trail

/-- The joins lead along the relations of every path, and along nothing else. -/
structure Navigable (q : Query) (root : String) : Prop where
  navigates : ∀ path ∈ q.paths, ∀ trail,
    q.Navigates root path trail ↔ trail = (Resolver.dotted root).segments path
  owner_ne : ∀ path ∈ q.paths, ∀ other ∈ q.paths,
    (Resolver.dotted root).segments path ≠ (Resolver.dotted root).segments other →
      (Resolver.dotted root).owner path ≠ (Resolver.dotted root).owner other
  own_join : ∀ u ∈ q.relationPrefixes (.dotted root), u ≠ [] →
    ∃ j ∈ (q.joins (.dotted root)).joins, ∀ trail,
      Leads root (q.joins (.dotted root)).joins j.child trail ↔ trail = u

variable {root : String} {q : Query}

theorem mem_relationPrefixes {resolver : Resolver} {u : List String} :
    u ∈ q.relationPrefixes resolver ↔ ∃ path ∈ q.paths, u <+: resolver.segments path := by
  simp only [relationPrefixes, List.mem_flatMap, List.mem_inits]

theorem mem_relationPrefixes_of_append {resolver : Resolver} {u v : List String}
    (h : u ++ v ∈ q.relationPrefixes resolver) : u ∈ q.relationPrefixes resolver := by
  obtain ⟨path, hp, hu⟩ := mem_relationPrefixes.mp h
  exact mem_relationPrefixes.mpr ⟨path, hp, (List.prefix_append u v).trans hu⟩

theorem segments_mem_relationPrefixes {resolver : Resolver} {path : String} (hp : path ∈ q.paths) :
    resolver.segments path ∈ q.relationPrefixes resolver :=
  mem_relationPrefixes.mpr ⟨path, hp, List.prefix_refl _⟩

theorem eq_follow_of_mem_joins {j : Join} (hj : j ∈ (q.joins (.dotted root)).joins) :
    ∃ u s, u ++ [s] ∈ q.relationPrefixes (.dotted root) ∧ j = .follow root u s := by
  rcases Joins.mem_joins_foldl_add hj with hj | hj
  · simp at hj
  · obtain ⟨path, hp, hj⟩ := List.mem_flatMap.mp hj
    obtain ⟨u, s, hu, rfl⟩ := Resolver.mem_joins_dotted.mp hj
    exact ⟨u, s, mem_relationPrefixes.mpr ⟨path, hp, hu⟩, rfl⟩

theorem follow_mem_joins (h : q.Unambiguous root) {u : List String} {s : String}
    (hu : u ++ [s] ∈ q.relationPrefixes (.dotted root)) :
    .follow root u s ∈ (q.joins (.dotted root)).joins := by
  obtain ⟨path, hp, hstart⟩ := mem_relationPrefixes.mp hu
  have ha : aliasOf root (u ++ [s]) ∈ (q.joins (.dotted root)).aliases.toList :=
    aliasOf_mem_aliases hp hstart
  rw [(q.wired_joins (.dotted root)).aliases_eq] at ha
  rcases List.mem_cons.mp ha with ha | ha
  · have he : u ++ [s] = [] := h _ hu _ (mem_relationPrefixes_of_append (u := []) hu) ha
    simp at he
  · obtain ⟨j, hj, he⟩ := List.mem_map.mp ha
    obtain ⟨u', s', hu', rfl⟩ := eq_follow_of_mem_joins hj
    obtain ⟨rfl, hs⟩ := List.append_inj' (h _ hu' _ hu he) rfl
    obtain rfl := List.singleton_inj.mp hs
    exact hj

theorem Unambiguous.leads (h : q.Unambiguous root) {u : List String}
    (hu : u ∈ q.relationPrefixes (.dotted root)) :
    Leads root (q.joins (.dotted root)).joins (aliasOf root u) u := by
  induction u using List.reverseRecOn with
  | nil => exact .root
  | append_singleton u s ih =>
    have hl := ih (mem_relationPrefixes_of_append hu)
    exact .join (follow_mem_joins h hu) hl

theorem Unambiguous.leads_iff (h : q.Unambiguous root) {u trail : List String}
    (hu : u ∈ q.relationPrefixes (.dotted root)) :
    Leads root (q.joins (.dotted root)).joins (aliasOf root u) trail ↔ trail = u := by
  constructor
  · intro ht
    exact (q.wired_joins (.dotted root)).leads_unique ht (h.leads hu)
  · rintro rfl
    exact h.leads hu

theorem Unambiguous.navigable (h : q.Unambiguous root) : q.Navigable root where
  navigates path hp trail := h.leads_iff (segments_mem_relationPrefixes hp)
  owner_ne path hp other ho hne he :=
    hne (h _ (segments_mem_relationPrefixes hp) _ (segments_mem_relationPrefixes ho) he)
  own_join u hu hn := by
    rcases List.eq_nil_or_concat u with rfl | ⟨u, s, rfl⟩
    · exact absurd rfl hn
    · rw [List.concat_eq_append] at hu ⊢
      exact ⟨_, follow_mem_joins h hu, fun trail => h.leads_iff hu⟩

theorem leads_dropLast {u : List String} {s : String}
    (h : Leads root (q.joins (.dotted root)).joins (aliasOf root (u ++ [s])) (u ++ [s])) :
    Leads root (q.joins (.dotted root)).joins (aliasOf root u) u := by
  have hw := q.wired_joins (.dotted root)
  generalize ha : aliasOf root (u ++ [s]) = name at h
  generalize ht : u ++ [s] = trail at h
  cases h with
  | root => simp at ht
  | @join j t hj h =>
    obtain ⟨rfl, hs⟩ := List.append_inj' ht rfl
    obtain ⟨u', s', hu', rfl⟩ := eq_follow_of_mem_joins hj
    have hs : s = s' := List.singleton_inj.mp hs
    have hjoin : String.join u = String.join u' := by
      rw [aliasOf_append] at ha
      have hc : String.join u ++ s = String.join u' ++ s' := ha.trans (aliasOf_append root u' s')
      rw [hs] at hc
      exact (String.append_left_inj s').mp hc
    by_cases hu : u = []
    · subst hu
      exact .root
    · have hu' : u' ≠ [] := by
        rintro rfl
        exact hu (hw.leads_root h)
      have halias : aliasOf root u = aliasOf root u' := by
        rw [aliasOf, aliasOf, if_neg (by simpa using hu), if_neg (by simpa using hu'), hjoin]
      rw [halias]
      exact h

theorem leads_of_append {u v : List String}
    (h : Leads root (q.joins (.dotted root)).joins (aliasOf root (u ++ v)) (u ++ v)) :
    Leads root (q.joins (.dotted root)).joins (aliasOf root u) u := by
  induction v using List.reverseRecOn with
  | nil => simpa using h
  | append_singleton v s ih =>
    rw [← List.append_assoc] at h
    exact ih (leads_dropLast h)

theorem Navigable.unambiguous (h : q.Navigable root) : q.Unambiguous root := by
  have hleads : ∀ u ∈ q.relationPrefixes (.dotted root),
      Leads root (q.joins (.dotted root)).joins (aliasOf root u) u := by
    intro u hu
    obtain ⟨path, hp, v, hv⟩ := mem_relationPrefixes.mp hu
    have hl := (h.navigates path hp _).mpr rfl
    rw [Navigates, Resolver.owner_dotted, ← hv] at hl
    exact leads_of_append hl
  intro u hu v hv he
  have hl := hleads u hu
  rw [he] at hl
  exact (q.wired_joins (.dotted root)).leads_unique hl (hleads v hv)

theorem paths_subset_addColumn (path : String) (aggregate : Option Aggregate) :
    q.paths ⊆ (q.addColumn path aggregate).paths := by
  intro old hold
  simp only [paths, addColumn, List.map_append, List.mem_append] at hold ⊢
  exact hold.imp_left .inl

theorem Unambiguous.of_addColumn {path : String} {aggregate : Option Aggregate}
    (h : (q.addColumn path aggregate).Unambiguous root) : q.Unambiguous root := by
  have hsub : q.relationPrefixes (.dotted root) ⊆
      (q.addColumn path aggregate).relationPrefixes (.dotted root) := by
    intro u hu
    obtain ⟨old, hold, hu⟩ := mem_relationPrefixes.mp hu
    exact mem_relationPrefixes.mpr ⟨old, paths_subset_addColumn path aggregate hold, hu⟩
  intro u hu v hv
  exact h u (hsub hu) v (hsub hv)

theorem leads_append_iff {paths more : List String} {path : String} (hp : path ∈ paths)
    {trail : List String} :
    Leads root (Joins.ofPaths (.dotted root) (paths ++ more)).joins
        ((Resolver.dotted root).owner path) trail ↔
      Leads root (Joins.ofPaths (.dotted root) paths).joins
        ((Resolver.dotted root).owner path) trail := by
  have hw := Joins.wired_ofPaths (.dotted root) paths
  have hw' := Joins.wired_ofPaths (.dotted root) (paths ++ more)
  have ha : (Resolver.dotted root).owner path ∈
      (Joins.ofPaths (.dotted root) paths).aliases.toList :=
    aliasOf_mem_aliases hp (List.prefix_refl _)
  rw [Joins.ofPaths_append] at hw' ⊢
  exact hw.leads_foldl_add hw' ha

theorem navigates_column_addColumn {path : String} {aggregate : Option Aggregate} {c : Column}
    (hc : c ∈ q.columns) {trail : List String} :
    (q.addColumn path aggregate).Navigates root c.path trail ↔ q.Navigates root c.path trail := by
  have hp : c.path ∈ q.columns.map Column.path := List.mem_map_of_mem hc
  have hpaths : (q.addColumn path aggregate).paths =
      q.columns.map Column.path ++ path :: q.filter.elim [] Restriction.paths := by
    simp [paths, addColumn]
  rw [Navigates, Navigates, joins, joins, hpaths, leads_append_iff hp, paths, leads_append_iff hp]

/-- The joins lead along the relations of every path exactly where no two prefixes of paths, the
empty one of the root included, have an alias in common. A column that is added never turns
another column, and it turns no path of the filter while this stays so. -/
theorem navigable_iff_unambiguous (root : String) (q : Query) :
    (q.Navigable root ↔ q.Unambiguous root) ∧
      ∀ (path : String) (aggregate : Option Aggregate),
        (∀ c ∈ q.columns, ∀ trail, (q.addColumn path aggregate).Navigates root c.path trail ↔
          q.Navigates root c.path trail) ∧
        ((q.addColumn path aggregate).Unambiguous root → ∀ old ∈ q.paths, ∀ trail,
          (q.addColumn path aggregate).Navigates root old trail ↔
            q.Navigates root old trail) := by
  refine ⟨⟨Navigable.unambiguous, Unambiguous.navigable⟩, ?_⟩
  intro path aggregate
  refine ⟨fun c hc trail => navigates_column_addColumn hc, ?_⟩
  intro h old hold trail
  have hold' := paths_subset_addColumn path aggregate hold
  rw [h.navigable.navigates old hold', h.of_addColumn.navigable.navigates old hold]

def customerQuery : Query where
  entity := "Order"
  columns := [⟨"customer.address.city", none⟩, ⟨"lines.product.name", none⟩]
  filter := some (.and [none, some (.not (.eq "customer.address.country.code" (.string "x")))])
  sort := []
  locale := ⟨"", "", ""⟩
  includeId := true
  distinctId := false
  totalCount := false

theorem navigable_iff_unambiguous_customer :
    (customerQuery.addColumn "customer.name" none).Unambiguous "obj" ∧
      customerQuery.Navigable "obj" ∧
      ((customerQuery.addColumn "customer.name" none).Navigates "obj"
          "customer.address.country.code" ["customer", "address", "country"] ↔
        customerQuery.Navigates "obj"
          "customer.address.country.code" ["customer", "address", "country"]) := by
  have h := navigable_iff_unambiguous "obj" customerQuery
  have hu : (customerQuery.addColumn "customer.name" none).Unambiguous "obj" := by
    decide +kernel
  have hn : customerQuery.Navigable "obj" := h.1.mpr (by decide +kernel)
  have hold : "customer.address.country.code" ∈ customerQuery.paths := by decide +kernel
  exact ⟨hu, hn, (h.2 "customer.name" none).2 hu _ hold _⟩

/-- Relations `a` and `b` one after the other, and a relation `ab`. -/
def overlappingQuery : Query where
  entity := "Order"
  columns := [⟨"a.b.x", none⟩, ⟨"ab.y", none⟩]
  filter := none
  sort := []
  locale := ⟨"", "", ""⟩
  includeId := true
  distinctId := false
  totalCount := false

theorem overlapping_not_navigable :
    (overlappingQuery.joins (.dotted "obj")).joins = [⟨"obj", "a", "a"⟩, ⟨"a", "b", "ab"⟩] ∧
      overlappingQuery.Navigates "obj" "ab.y" ["a", "b"] ∧
      (Resolver.dotted "obj").segments "ab.y" = ["ab"] ∧
      ¬ overlappingQuery.Navigable "obj" := by
  have hj : (overlappingQuery.joins (.dotted "obj")).joins =
      [⟨"obj", "a", "a"⟩, ⟨"a", "b", "ab"⟩] := rfl
  have hn : overlappingQuery.Navigates "obj" "ab.y" ["a", "b"] := by
    have ha : Leads "obj" (overlappingQuery.joins (.dotted "obj")).joins "a" ["a"] := by
      rw [hj]
      exact .join (j := ⟨"obj", "a", "a"⟩) List.mem_cons_self .root
    exact .join (j := ⟨"a", "b", "ab"⟩) (by simp [hj]) ha
  have hs : (Resolver.dotted "obj").segments "ab.y" = ["ab"] := rfl
  refine ⟨hj, hn, hs, ?_⟩
  intro h
  have he := (h.navigates "ab.y" (by decide +kernel) _).mp hn
  rw [hs] at he
  simp at he

end Query

end ObjectQuery
