import Mathlib.Data.List.Forall2
import ObjectQuery.Proofs.Compiler.Parts

/-! Order keys point into the select list. The sorts come first, each with its direction; the
columns that break ties follow in their own order, and the id is last. -/

namespace ObjectQuery

/-- The ordinals of the columns that break ties. Several sorts stand alone. -/
def tieBreakers (sort : List SortDescriptor) (columns : Nat) (includeId : Bool) : List Nat :=
  if sort.length ≤ 1 then
    (List.range' (firstOrdinal includeId) columns).filter
      (· ∉ sort.map fun d => (d.key includeId).ordinal)
  else []

def idOrdinals (includeId : Bool) : List Nat :=
  if includeId then [1] else []

section

variable {sort : List SortDescriptor} {columns : Nat} {includeId : Bool}

theorem orderKeys_eq :
    orderKeys sort columns includeId =
      sort.map (SortDescriptor.key includeId) ++
        (tieBreakers sort columns includeId ++ idOrdinals includeId).map implicitKey := by
  have hordinals : (List.range columns).map (· + firstOrdinal includeId) =
      List.range' (firstOrdinal includeId) columns := by
    simp only [List.range'_eq_map_range, Nat.add_comm]
  have hid : (if includeId then [implicitKey 1] else []) =
      (idOrdinals includeId).map implicitKey := by
    cases includeId <;> rfl
  unfold orderKeys
  rw [hordinals, hid, List.map_append, ← List.append_assoc]
  match sort with
  | [] => simp [tieBreakers]
  | [primary] => simp [tieBreakers]
  | first :: second :: rest => simp [tieBreakers]

theorem filter_directed_orderKeys :
    (orderKeys sort columns includeId).filter (·.direction.isSome) =
      sort.map (SortDescriptor.key includeId) := by
  have hsort : (sort.map (SortDescriptor.key includeId)).filter (·.direction.isSome) =
      sort.map (SortDescriptor.key includeId) := by
    rw [List.filter_eq_self]
    intro key hk
    obtain ⟨d, _, rfl⟩ := List.mem_map.mp hk
    rfl
  have himplicit (ordinals : List Nat) :
      (ordinals.map implicitKey).filter (·.direction.isSome) = [] := by
    rw [List.filter_eq_nil_iff]
    intro key hk
    obtain ⟨ordinal, _, rfl⟩ := List.mem_map.mp hk
    simp [implicitKey]
  rw [orderKeys_eq, List.filter_append, hsort, himplicit, List.append_nil]

theorem filter_undirected_orderKeys :
    (orderKeys sort columns includeId).filter (·.direction.isNone) =
      (tieBreakers sort columns includeId ++ idOrdinals includeId).map implicitKey := by
  have hsort : (sort.map (SortDescriptor.key includeId)).filter (·.direction.isNone) = [] := by
    rw [List.filter_eq_nil_iff]
    intro key hk
    obtain ⟨d, _, rfl⟩ := List.mem_map.mp hk
    simp [SortDescriptor.key]
  have himplicit (ordinals : List Nat) :
      (ordinals.map implicitKey).filter (·.direction.isNone) = ordinals.map implicitKey := by
    rw [List.filter_eq_self]
    intro key hk
    obtain ⟨ordinal, _, rfl⟩ := List.mem_map.mp hk
    rfl
  rw [orderKeys_eq, List.filter_append, hsort, himplicit, List.nil_append]

theorem map_ordinal_implicitKey (ordinals : List Nat) :
    (ordinals.map implicitKey).map (·.ordinal) = ordinals := by
  rw [List.map_map]
  exact List.map_id ordinals

theorem map_ordinal_orderKeys :
    (orderKeys sort columns includeId).map (·.ordinal) =
      sort.map (fun d => (d.key includeId).ordinal) ++ tieBreakers sort columns includeId ++
        idOrdinals includeId := by
  rw [orderKeys_eq, List.map_append, List.map_map, map_ordinal_implicitKey, List.append_assoc]
  rfl

theorem key_ordinal_mem {d : SortDescriptor} (h : d.column < columns) :
    (d.key includeId).ordinal ∈ List.range' (firstOrdinal includeId) columns := by
  simp only [List.mem_range'_1, SortDescriptor.key]
  omega

theorem tieBreakers_increasing : (tieBreakers sort columns includeId).Pairwise (· < ·) := by
  unfold tieBreakers
  split
  · exact List.Pairwise.filter _ List.pairwise_lt_range'
  · exact List.Pairwise.nil

theorem tieBreakers_subset :
    tieBreakers sort columns includeId ⊆ List.range' (firstOrdinal includeId) columns := by
  unfold tieBreakers
  split
  · exact List.filter_subset_self _
  · exact List.nil_subset _

theorem places_perm :
    (List.range' (firstOrdinal includeId) columns ++ idOrdinals includeId).Perm
      (List.range' 1 (columns + if includeId then 1 else 0)) := by
  cases includeId with
  | false => rw [idOrdinals, if_neg Bool.false_ne_true, List.append_nil]; rfl
  | true => exact List.perm_append_singleton 1 _

/-- With at most one sort, the sort and the ties name every column once. -/
theorem column_ordinals_perm (hl : sort.length ≤ 1) (hs : ∀ d ∈ sort, d.column < columns) :
    (sort.map (fun d => (d.key includeId).ordinal) ++ tieBreakers sort columns includeId).Perm
      (List.range' (firstOrdinal includeId) columns) := by
  rw [tieBreakers, if_pos hl]
  match sort with
  | [] => simp
  | [primary] =>
    have hmem : (primary.key includeId).ordinal ∈
        List.range' (firstOrdinal includeId) columns :=
      key_ordinal_mem (hs primary List.mem_cons_self)
    have hfilter := (List.nodup_range' (s := firstOrdinal includeId)
      (n := columns)).erase_eq_filter (primary.key includeId).ordinal
    have hperm := (List.perm_cons_erase hmem).symm
    rw [hfilter] at hperm
    simpa [bne, beq_eq_decide] using hperm

theorem ordinals_perm (hl : sort.length ≤ 1) (hs : ∀ d ∈ sort, d.column < columns) :
    ((orderKeys sort columns includeId).map (·.ordinal)).Perm
      (List.range' 1 (columns + if includeId then 1 else 0)) := by
  rw [map_ordinal_orderKeys]
  exact ((column_ordinals_perm hl hs).append_right _).trans places_perm

theorem ordinal_mem_places (hs : ∀ d ∈ sort, d.column < columns) {key : OrderKey}
    (hk : key ∈ orderKeys sort columns includeId) :
    key.ordinal ∈ List.range' 1 (columns + if includeId then 1 else 0) := by
  have ho : key.ordinal ∈ (orderKeys sort columns includeId).map (·.ordinal) :=
    List.mem_map_of_mem hk
  rw [map_ordinal_orderKeys] at ho
  apply places_perm.mem_iff.mp
  rcases List.mem_append.mp ho with ho | ho
  · rcases List.mem_append.mp ho with ho | ho
    · obtain ⟨d, hd, hkey⟩ := List.mem_map.mp ho
      exact List.mem_append_left _ (hkey ▸ key_ordinal_mem (hs d hd))
    · exact List.mem_append_left _ (tieBreakers_subset ho)
  · exact List.mem_append_right _ ho

end

namespace Query

theorem exists_descriptors {columns position : Nat} {sort : List (Option SortDescriptor)}
    (h : sortError? columns position sort = none) :
    ∃ descriptors : List SortDescriptor, sort = descriptors.map some ∧
      ∀ d ∈ descriptors, d.column < columns := by
  induction sort generalizing position with
  | nil => exact ⟨[], rfl, by simp⟩
  | cons entry rest ih =>
    cases entry with
    | none => cases h
    | some d =>
      rw [sortError?] at h
      split at h
      · cases h
      · rename_i hd
        obtain ⟨descriptors, rfl, hrest⟩ := ih h
        refine ⟨d :: descriptors, rfl, ?_⟩
        intro d' hd'
        rcases List.mem_cons.mp hd' with rfl | hd'
        · omega
        · exact hrest d' hd'

variable {names : Conventions} {resolver : Resolver} {q : Query}

theorem length_items :
    (q.items names resolver).length = q.columns.length + if q.includeId then 1 else 0 := by
  rw [items, List.length_append, List.length_map]
  cases q.includeId with
  | false => exact Nat.add_comm _ _
  | true => exact Nat.add_comm _ _

theorem getElem?_items {i : Nat} {column : Column} (h : q.columns[i]? = some column) :
    (q.items names resolver)[i + firstOrdinal q.includeId - 1]? =
      some (column.item names resolver) := by
  have hitem : (q.columns.map (Column.item names resolver))[i]? =
      some (column.item names resolver) := by
    rw [List.getElem?_map, h]
    rfl
  unfold items
  cases q.includeId with
  | false => simpa [firstOrdinal] using hitem
  | true => simpa [firstOrdinal] using hitem

theorem head?_items (h : q.includeId = true) :
    (q.items names resolver).head? = some (q.idItem names resolver) := by
  rw [items, if_pos h]
  rfl

end Query

/-- How the order keys of a statement stand to its select list and to the sorts of the query. -/
structure Statement.Ordered (c : Compiler) (q : Query) (sort : List SortDescriptor)
    (s : Statement) : Prop where
  length_select : s.select.length = q.columns.length + if q.includeId then 1 else 0
  select_ne_nil : s.select ≠ []
  orderBy_ne_nil : s.orderBy ≠ []
  place : ∀ key ∈ s.orderBy, 1 ≤ key.ordinal ∧ key.ordinal ≤ s.select.length
  /-- There is one key with a direction for each sort; it names the item of the sorted column. -/
  directed : List.Forall₂
    (fun key d => key.direction = some (.ofAscending d.ascending) ∧
      ∃ column, q.columns[d.column]? = some column ∧
        s.select[key.ordinal - 1]? = some (column.item c.names c.resolver))
    (s.orderBy.filter (·.direction.isSome)) sort
  perm : sort.length ≤ 1 →
    (s.orderBy.map (·.ordinal)).Perm (List.range' 1 s.select.length)
  ties : sort.length ≤ 1 → ∃ others : List Nat, others.Pairwise (· < ·) ∧
    (s.orderBy.filter (·.direction.isNone)).map (·.ordinal) =
      others ++ if q.includeId then [1] else []
  several : 2 ≤ sort.length →
    s.orderBy = s.orderBy.filter (·.direction.isSome) ++ if q.includeId then [⟨1, none⟩] else []
  id : q.includeId = true → s.orderBy.getLast? = some ⟨1, none⟩ ∧
    s.select.head? = some (if q.distinctId
      then .function "distinct" [.column c.resolver.root c.names.idField]
      else .column c.resolver.root c.names.idField)

namespace Compiler

variable {c : Compiler} {q : Query} {sort : List SortDescriptor}

theorem rows_orderBy (hsort : q.sort = sort.map some) (conditions : List Expr) :
    (c.rows q conditions).orderBy = orderKeys sort q.columns.length q.includeId := by
  have hfilter : (sort.map some).filterMap id = sort := by
    rw [List.filterMap_map]
    exact List.filterMap_some
  rw [rows, hsort, hfilter]

theorem rows_ordered (hsort : q.sort = sort.map some)
    (hs : ∀ d ∈ sort, d.column < q.columns.length) (hne : q.columns ≠ [] ∨ q.includeId = true)
    (conditions : List Expr) : (c.rows q conditions).Ordered c q sort := by
  have horder := rows_orderBy (c := c) hsort conditions
  have hdirected : (c.rows q conditions).orderBy.filter (·.direction.isSome) =
      sort.map (SortDescriptor.key q.includeId) := by
    rw [horder, filter_directed_orderKeys]
  have hlength : (c.rows q conditions).select.length =
      q.columns.length + if q.includeId then 1 else 0 := Query.length_items
  have hselect : (c.rows q conditions).select ≠ [] := by
    rw [← List.length_pos_iff, hlength]
    rcases hne with hne | hne
    · have := List.length_pos_iff.mpr hne
      omega
    · simp [hne]
  have hperm (hl : sort.length ≤ 1) : ((c.rows q conditions).orderBy.map (·.ordinal)).Perm
      (List.range' 1 (c.rows q conditions).select.length) := by
    rw [horder, hlength]
    exact ordinals_perm hl hs
  constructor
  case length_select => exact hlength
  case select_ne_nil => exact hselect
  case perm => exact hperm
  case orderBy_ne_nil =>
    -- Without a key there is no sort, and then the keys name all places, of which there is one.
    intro hnil
    have hkeys := hdirected
    rw [hnil] at hkeys
    have hl := hperm (by simp [List.map_eq_nil_iff.mp hkeys.symm])
    rw [hnil] at hl
    have hzero : (c.rows q conditions).select.length = 0 := by simpa using hl.length_eq.symm
    exact hselect (List.eq_nil_of_length_eq_zero hzero)
  case place =>
    intro key hk
    rw [horder] at hk
    have hp := ordinal_mem_places hs hk
    rw [List.mem_range'_1] at hp
    omega
  case directed =>
    rw [hdirected, List.forall₂_map_left_iff, List.forall₂_same]
    intro d hd
    have hcolumn := List.getElem?_eq_getElem (hs d hd)
    exact ⟨rfl, _, hcolumn, Query.getElem?_items hcolumn⟩
  case ties =>
    intro hl
    refine ⟨tieBreakers sort q.columns.length q.includeId, tieBreakers_increasing, ?_⟩
    rw [horder, filter_undirected_orderKeys, map_ordinal_implicitKey]
    rfl
  case several =>
    intro hl
    have htie : tieBreakers sort q.columns.length q.includeId = [] := by
      rw [tieBreakers, if_neg (by omega)]
    have hid : (if q.includeId then [⟨1, none⟩] else []) =
        (idOrdinals q.includeId).map implicitKey := by
      cases q.includeId <;> rfl
    rw [hdirected, horder, orderKeys_eq, htie, hid, List.nil_append]
  case id =>
    intro hid
    refine ⟨?_, Query.head?_items hid⟩
    rw [horder, orderKeys_eq, hid, List.map_append, ← List.append_assoc]
    exact List.getLast?_concat

/-- The order keys of a compiled statement agree with its select list. -/
theorem compile_ordered {s : Compiled} (h : c.compile q = .ok s) :
    ∃ sort, q.sort = sort.map some ∧ s.statement.Ordered c q sort := by
  obtain ⟨hcheck, conditions, hrows⟩ := compile_rows h
  obtain ⟨_, hsort, hne⟩ := check_eq_ok_iff.mp hcheck
  obtain ⟨sort, hsort, hs⟩ := Query.exists_descriptors hsort
  rw [hrows]
  exact ⟨sort, hsort, rows_ordered hsort hs hne conditions⟩

/-- A single sort, on the second of three columns. -/
def rankedQuery : Query :=
  { Query.ofEntity "Order" with
    columns := [⟨"code", none⟩, ⟨"total", some .max⟩, ⟨"customer.name", none⟩]
    sort := [some ⟨1, false⟩] }

theorem compile_ordered_ranked : ∃ (s : Compiled) (sort : List SortDescriptor),
    standard.compile rankedQuery = .ok s ∧
      s.statement.orderBy = [⟨3, some .desc⟩, ⟨2, none⟩, ⟨4, none⟩, ⟨1, none⟩] ∧
      rankedQuery.sort = sort.map some ∧ s.statement.Ordered standard rankedQuery sort := by
  obtain ⟨s, hs, ho⟩ : ∃ s : Compiled, standard.compile rankedQuery = .ok s ∧
      s.statement.orderBy = [⟨3, some .desc⟩, ⟨2, none⟩, ⟨4, none⟩, ⟨1, none⟩] := ⟨_, rfl, rfl⟩
  obtain ⟨sort, hsort, hordered⟩ := compile_ordered hs
  exact ⟨s, sort, hs, ho, hsort, hordered⟩

end Compiler

end ObjectQuery
