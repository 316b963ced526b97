import ObjectQuery.Proofs.Compiler.Parts
import ObjectQuery.Proofs.Document.RoundTrip

/-! What holds of a document that is read. It is not nested too deep, and a number was found for
each of its numbers; for the position of a sort entry it was an integer. -/

namespace ObjectQuery

open Compiler (bind_eq_ok)
open Json (Outline Number)
open Json.Outline (reading readingItems readingFields)

namespace Json

theorem depthItems_le {items : List Json} {n : Nat} (h : ∀ j ∈ items, j.depth ≤ n) :
    depthItems items ≤ n := by
  induction items with
  | nil => exact Nat.zero_le n
  | cons item rest ih =>
    obtain ⟨hitem, hrest⟩ := List.forall_mem_cons.mp h
    exact Nat.max_le.mpr ⟨hitem, ih hrest⟩

end Json

namespace Document

theorem map_eq_ok {ε α β : Type} {x : Except ε α} {f : α → β} {y : β}
    (h : x.map f = .ok y) : ∃ a, x = .ok a ∧ f a = y := by
  cases x with
  | error e => cases h
  | ok a => exact ⟨a, rfl, Except.ok.inj h⟩

theorem once_eq_ok {α : Type} {name : String} {slot found : Option α}
    {value : Except DocumentError α} (h : RecordDecoder.once name slot value = .ok found) :
    ∃ x, value = .ok x ∧ some x = found := by
  unfold RecordDecoder.once at h
  split at h
  · cases h
  · exact map_eq_ok h

theorem mapM_eq_ok {ε α β : Type} {f : α → Except ε β} {xs : List α} {ys : List β}
    (h : xs.mapM f = .ok ys) : ∀ x ∈ xs, ∃ y, f x = .ok y := by
  induction xs generalizing ys with
  | nil => simp
  | cons x xs ih =>
    rw [List.mapM_cons] at h
    obtain ⟨y, hy, h⟩ := bind_eq_ok h
    obtain ⟨ys, hys, _⟩ := bind_eq_ok h
    exact List.forall_mem_cons.mpr ⟨⟨y, hy⟩, ih hys⟩

variable {read? : Number → Option Number}

/-- What is true of one part of a document and of the others is true of all. -/
theorem readable_append {depth first others : Nat} {ns ms : List Number}
    (h : first ≤ depth ∧ ∀ n ∈ ns, (read? n).isSome = true)
    (hothers : others ≤ depth ∧ ∀ n ∈ ms, (read? n).isSome = true) :
    max first others ≤ depth ∧ ∀ n ∈ ns ++ ms, (read? n).isSome = true :=
  ⟨Nat.max_le.mpr ⟨h.1, hothers.1⟩, List.forall_mem_append.mpr ⟨h.2, hothers.2⟩⟩

mutual

theorem readable_of_json : ∀ (j : Json) {depth : Nat} {j' : Json},
    json depth (reading read? j) = .ok j' →
      j.depth ≤ depth ∧ ∀ n ∈ j.numbers, (read? n).isSome = true
  | .null, _, _, _ | .bool _, _, _, _ | .string _, _, _, _ =>
    ⟨Nat.zero_le _, by simp [Json.numbers]⟩
  | .number n, _, _, h => by
    cases hn : read? n with
    | none =>
      rw [reading, hn] at h
      cases h
    | some m => exact ⟨Nat.zero_le _, by simp [Json.numbers, hn]⟩
  | .array _, 0, _, h | .object _, 0, _, h => by cases h
  | .array items, depth + 1, _, h => by
    obtain ⟨_, hitems, _⟩ := bind_eq_ok h
    obtain ⟨hdepth, hnumbers⟩ := readable_of_jsonItems items hitems
    exact ⟨Nat.succ_le_succ hdepth, hnumbers⟩
  | .object fields, depth + 1, _, h => by
    obtain ⟨_, hfields, _⟩ := bind_eq_ok h
    obtain ⟨hdepth, hnumbers⟩ := readable_of_jsonFields fields hfields
    exact ⟨Nat.succ_le_succ hdepth, hnumbers⟩

theorem readable_of_jsonItems : ∀ (items : List Json) {depth : Nat} {items' : List Json},
    jsonItems depth (readingItems read? items) = .ok items' →
      Json.depthItems items ≤ depth ∧ ∀ n ∈ Json.numbersOfItems items, (read? n).isSome = true
  | [], _, _, _ => ⟨Nat.zero_le _, by simp [Json.numbersOfItems]⟩
  | item :: rest, depth, _, h => by
    obtain ⟨_, hitem, h⟩ := bind_eq_ok h
    obtain ⟨_, hrest, _⟩ := bind_eq_ok h
    exact readable_append (readable_of_json item hitem) (readable_of_jsonItems rest hrest)

theorem readable_of_jsonFields : ∀ (fields : List (String × Json)) {depth : Nat}
    {fields' : List (String × Json)}, jsonFields depth (readingFields read? fields) = .ok fields' →
      Json.depthFields fields ≤ depth ∧ ∀ n ∈ Json.numbersOfFields fields, (read? n).isSome = true
  | [], _, _, _ => ⟨Nat.zero_le _, by simp [Json.numbersOfFields]⟩
  | (_, value) :: rest, depth, _, h => by
    obtain ⟨_, _, h⟩ := bind_eq_ok h
    obtain ⟨_, hvalue, h⟩ := bind_eq_ok h
    obtain ⟨_, hrest, _⟩ := bind_eq_ok h
    exact readable_append (readable_of_json value hvalue) (readable_of_jsonFields rest hrest)

end

theorem readable_of_taggedFields {kind : Restriction.Kind} {depth : Nat}
    {fields fields' : List (String × Json)} (huntagged : ∀ field ∈ fields, field.1 ≠ "type")
    (h : taggedFields depth true (some kind) (readingFields read? fields) = .ok fields') :
    Json.depthFields fields ≤ depth ∧
      ∀ n ∈ Json.numbersOfFields fields, (read? n).isSome = true := by
  induction fields generalizing fields' with
  | nil => exact ⟨Nat.zero_le _, by simp [Json.numbersOfFields]⟩
  | cons field rest ih =>
    obtain ⟨name, value⟩ := field
    obtain ⟨hname, huntagged⟩ := List.forall_mem_cons.mp huntagged
    rw [readingFields, taggedFields] at h
    simp only [pure_bind, if_neg hname] at h
    obtain ⟨_, hvalue, h⟩ := bind_eq_ok h
    obtain ⟨_, hrest, _⟩ := bind_eq_ok h
    exact readable_append (readable_of_json value hvalue) (ih huntagged hrest)

theorem readable_of_restriction {r r' : Restriction} {depth : Nat}
    (h : restriction depth (reading read? r.toJson) = .ok r') :
    r.toJson.depth ≤ depth ∧ ∀ n ∈ r.toJson.numbers, (read? n).isSome = true := by
  obtain ⟨kind, fields, hobject, huntagged⟩ := r.exists_tagged
  rw [hobject] at h ⊢
  cases depth with
  | zero => cases h
  | succ depth =>
    obtain ⟨_, htagged, _⟩ := bind_eq_ok h
    rw [readingFields, taggedFields] at htagged
    simp only [pure_bind, if_pos] at htagged
    obtain ⟨_, _, htagged⟩ := bind_eq_ok htagged
    obtain ⟨_, _, htagged⟩ := bind_eq_ok htagged
    obtain ⟨_, hfields, _⟩ := bind_eq_ok htagged
    obtain ⟨hdepth, hnumbers⟩ := readable_of_taggedFields huntagged hfields
    constructor
    · simpa [Json.depth, Json.depthFields] using hdepth
    · simpa [Json.numbers, Json.numbersOfFields] using hnumbers

theorem readable_of_filter {filter found : Option Restriction} {depth : Nat}
    (h : optional restriction depth (reading read? (.ofOption Restriction.toJson filter)) =
      .ok found) :
    (Json.ofOption Restriction.toJson filter).depth ≤ depth ∧
      ∀ n ∈ (Json.ofOption Restriction.toJson filter).numbers, (read? n).isSome = true := by
  cases filter with
  | none => exact ⟨Nat.zero_le depth, by simp [Json.ofOption, Json.numbers]⟩
  | some r =>
    have hne : reading read? r.toJson ≠ .null := by
      obtain ⟨kind, fields, hobject, _⟩ := r.exists_tagged
      simp [hobject, reading]
    rw [Json.ofOption, optional_of_ne_null hne] at h
    obtain ⟨r', hr, _⟩ := map_eq_ok h
    exact readable_of_restriction hr

theorem RecordDecoder.exists_step {σ : Type} {r : RecordDecoder σ} {depth : Nat} {s s' : σ}
    {fields : List (String × Json)}
    (hknown : ∀ field ∈ fields, r.names.contains field.1 = true)
    (h : r.entries depth true s (readingFields read? fields) = .ok s') :
    ∀ field ∈ fields, ∃ s₁ s₂, r.step depth field.1 (reading read? field.2) s₁ = .ok s₂ := by
  induction fields generalizing s with
  | nil => simp
  | cons field rest ih =>
    obtain ⟨hname, hknown⟩ := List.forall_mem_cons.mp hknown
    rw [readingFields, RecordDecoder.entries, if_pos hname] at h
    obtain ⟨s₁, hstep, h⟩ := bind_eq_ok h
    exact List.forall_mem_cons.mpr ⟨⟨s, s₁, hstep⟩, ih hknown h⟩

theorem readable_of_sortDescriptor {s s' : SortDescriptor} {depth : Nat}
    (h : sortDescriptor depth (reading read? s.toJson) = .ok s') :
    ∃ m, read? (.int s.column) = some (.int m) := by
  cases depth with
  | zero => cases h
  | succ depth =>
    obtain ⟨p, hentries, _⟩ := bind_eq_ok h
    obtain ⟨p₁, p₂, hstep⟩ := RecordDecoder.exists_step (by simp [sortFields]) hentries
      ("column_index", .int s.column) (by simp)
    obtain ⟨found, hfound, _⟩ := bind_eq_ok hstep
    obtain ⟨n, hindex, _⟩ := once_eq_ok hfound
    change index depth (.number (read? (.int s.column))) = .ok n at hindex
    cases hread : read? (.int s.column) with
    | none =>
      rw [hread] at hindex
      cases hindex
    | some found =>
      cases found with
      | int m => exact ⟨m, rfl⟩
      | float x =>
        rw [hread] at hindex
        cases hindex

theorem readable_of_sort {entries found : List (Option SortDescriptor)} {depth : Nat}
    (h : sort depth (reading read? (Query.sortToJson entries)) = .ok found) :
    ∀ s, some s ∈ entries → ∃ m, read? (.int s.column) = some (.int m) := by
  intro s hs
  cases depth with
  | zero => cases h
  | succ depth =>
    obtain ⟨_, hitems, _⟩ := bind_eq_ok h
    have hmem : reading read? s.toJson ∈
        readingItems read? (entries.map (.ofOption SortDescriptor.toJson)) := by
      rw [Outline.readingItems_eq_map, List.map_map]
      exact List.mem_map.mpr ⟨some s, hs, rfl⟩
    obtain ⟨found, hfound⟩ := mapM_eq_ok hitems _ hmem
    rw [optional_of_ne_null (by simp [SortDescriptor.toJson, reading])] at hfound
    obtain ⟨s', hs', _⟩ := map_eq_ok hfound
    exact readable_of_sortDescriptor hs'

theorem depth_column (c : Column) : c.toJson.depth ≤ 1 := by
  cases h : c.aggregate <;>
    simp [Column.toJson, h, Json.ofOption, Aggregate.toJson, Json.depth, Json.depthFields]

theorem depth_sortEntry (entry : Option SortDescriptor) :
    (Json.ofOption SortDescriptor.toJson entry).depth ≤ 1 := by
  cases entry <;>
    simp [SortDescriptor.toJson, Json.ofOption, Json.int, Json.depth, Json.depthFields]

/-- The document of a query can be read with the numbers that `read?` finds for its own. -/
structure Readable (read? : Number → Option Number) (depth : Nat) (q : Query) : Prop where
  depth_le : q.toJson.depth ≤ depth
  values : ∀ v ∈ q.values, ∀ n ∈ v.toJson.numbers, (read? n).isSome = true
  sort : ∀ s, some s ∈ q.sort → ∃ m, read? (.int s.column) = some (.int m)

/-- Only the filter of a query can be nested deep. -/
theorem readable_of_query {q q' : Query} {depth : Nat} (hdepth : 3 ≤ depth)
    (h : query depth (reading read? q.toJson) = .ok q') : Readable read? depth q := by
  obtain ⟨depth, rfl⟩ : ∃ n, depth = n + 1 := ⟨depth - 1, by omega⟩
  obtain ⟨p, hentries, _⟩ := bind_eq_ok h
  have hstep := RecordDecoder.exists_step (by simp [queryFields]) hentries
  obtain ⟨hfilter, hvalues⟩ : (Json.ofOption Restriction.toJson q.filter).depth ≤ depth ∧
      ∀ n ∈ (Json.ofOption Restriction.toJson q.filter).numbers, (read? n).isSome = true := by
    obtain ⟨p₁, p₂, hstep⟩ := hstep ("filter", .ofOption Restriction.toJson q.filter) (by simp)
    obtain ⟨found, hfound, _⟩ := bind_eq_ok hstep
    obtain ⟨found, hfound, _⟩ := once_eq_ok hfound
    exact readable_of_filter hfound
  constructor
  case depth_le =>
    have hcolumns : Json.depthItems (q.columns.map Column.toJson) ≤ 1 :=
      Json.depthItems_le (List.forall_mem_map.mpr fun c _ => depth_column c)
    have hsort : Json.depthItems (q.sort.map (.ofOption SortDescriptor.toJson)) ≤ 1 :=
      Json.depthItems_le (List.forall_mem_map.mpr fun entry _ => depth_sortEntry entry)
    simp only [Query.toJson, Query.sortToJson, Locale.toJson, Json.depth, Json.depthFields]
    omega
  case values =>
    intro v hv n hn
    apply hvalues n
    rw [q.numbers_filter]
    exact List.mem_flatMap.mpr ⟨v, hv, hn⟩
  case sort =>
    obtain ⟨p₁, p₂, hstep⟩ := hstep ("sort", Query.sortToJson q.sort) (by simp)
    obtain ⟨found, hfound, _⟩ := bind_eq_ok hstep
    obtain ⟨found, hfound, _⟩ := once_eq_ok hfound
    exact readable_of_sort hfound

end Document

end ObjectQuery
