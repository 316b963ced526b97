import ObjectQuery.Document.Query

/-! Decoders that find a value in the document it is written as. -/

namespace ObjectQuery

open Json (Outline)

namespace Json

theorem depth_le_of_mem_items {items : List Json} {j : Json} (h : j ∈ items) :
    j.depth ≤ depthItems items := by
  induction items with
  | nil => cases h
  | cons item rest ih =>
    rw [depthItems]
    rcases List.mem_cons.mp h with rfl | h
    · exact Nat.le_max_left _ _
    · exact Nat.le_trans (ih h) (Nat.le_max_right _ _)

theorem depth_le_of_mem_fields {fields : List (String × Json)} (name : String) {j : Json}
    (h : (name, j) ∈ fields) : j.depth ≤ depthFields fields := by
  induction fields with
  | nil => cases h
  | cons field rest ih =>
    obtain ⟨other, value⟩ := field
    rw [depthFields]
    rcases List.mem_cons.mp h with h | h
    · cases h
      exact Nat.le_max_left _ _
    · exact Nat.le_trans (ih h) (Nat.le_max_right _ _)

end Json

namespace Document

mutual

theorem json_ofJson : ∀ (j : Json) {depth : Nat}, j.depth ≤ depth → json depth (.ofJson j) = .ok j
  | .null, _, _ | .bool _, _, _ | .number _, _, _ | .string _, _, _ => rfl
  | .array items, 0, h => by simp [Json.depth] at h
  | .array items, depth + 1, h => by
    rw [Outline.ofJson, json, jsonItems_ofItems items (Nat.le_of_succ_le_succ h)]
    rfl
  | .object fields, 0, h => by simp [Json.depth] at h
  | .object fields, depth + 1, h => by
    rw [Outline.ofJson, json, jsonFields_ofFields fields (Nat.le_of_succ_le_succ h)]
    rfl

theorem jsonItems_ofItems : ∀ (items : List Json) {depth : Nat}, Json.depthItems items ≤ depth →
    jsonItems depth (Outline.ofItems items) = .ok items
  | [], _, _ => rfl
  | item :: rest, depth, h => by
    obtain ⟨hitem, hrest⟩ := Nat.max_le.mp h
    rw [Outline.ofItems, jsonItems, json_ofJson item hitem, jsonItems_ofItems rest hrest]
    rfl

theorem jsonFields_ofFields : ∀ (fields : List (String × Json)) {depth : Nat},
    Json.depthFields fields ≤ depth → jsonFields depth (Outline.ofFields fields) = .ok fields
  | [], _, _ => rfl
  | (name, value) :: rest, depth, h => by
    obtain ⟨hvalue, hrest⟩ := Nat.max_le.mp h
    simp only [Outline.ofFields, jsonFields, json_ofJson value hvalue,
      jsonFields_ofFields rest hrest]
    rfl

end

/-- The decoder finds the value in the document, wherever as many containers may be opened as the
document has inside each other. -/
def Reads {α : Type} (decode : Decoder α) (j : Json) (x : α) : Prop :=
  ∀ depth, j.depth ≤ depth → decode depth (.ofJson j) = .ok x

theorem reads_string (s : String) : Reads string (.string s) s :=
  fun _ _ => rfl

theorem reads_bool (b : Bool) : Reads bool (.bool b) b :=
  fun _ _ => rfl

theorem reads_index (n : Nat) : Reads index (.int n) n := by
  intro depth _
  change (if 0 ≤ (n : Int) then Except.ok (n : Int).toNat else .error .invalidValue) = _
  rw [if_pos (Int.natCast_nonneg n), Int.toNat_natCast]

section

variable {α : Type} {decode : Decoder α} {toJson : α → Json}

theorem mapM_ofItems {xs : List α} {depth : Nat}
    (h : ∀ x ∈ xs, decode depth (.ofJson (toJson x)) = .ok x) :
    (Outline.ofItems (xs.map toJson)).mapM (decode depth) = .ok xs := by
  induction xs with
  | nil => rfl
  | cons x xs ih =>
    have hrest := ih fun y hy => h y (List.mem_cons_of_mem _ hy)
    rw [List.map_cons, Outline.ofItems, List.mapM_cons, h x List.mem_cons_self, hrest]
    rfl

theorem reads_list {xs : List α} (h : ∀ x ∈ xs, Reads decode (toJson x) x) :
    Reads (list decode) (.array (xs.map toJson)) xs := by
  intro depth hdepth
  cases depth with
  | zero => simp [Json.depth] at hdepth
  | succ depth =>
    have hitems : (Outline.ofItems (xs.map toJson)).mapM (decode depth) = .ok xs := by
      apply mapM_ofItems
      intro x hx
      have hx' := Json.depth_le_of_mem_items (List.mem_map_of_mem (f := toJson) hx)
      exact h x hx depth (Nat.le_trans hx' (Nat.le_of_succ_le_succ hdepth))
    rw [Outline.ofJson, list, enter]
    simp only [hitems]
    rfl

theorem optional_of_ne_null {o : Outline} (h : o ≠ .null) (depth : Nat) :
    optional decode depth o = (decode depth o).map some := by
  cases o with
  | null => exact absurd rfl h
  | _ => rfl

theorem reads_optional {o : Option α} (hnull : ∀ x, toJson x ≠ .null)
    (h : ∀ x ∈ o, Reads decode (toJson x) x) : Reads (optional decode) (.ofOption toJson o) o := by
  intro depth hdepth
  cases o with
  | none => rfl
  | some x =>
    have hx := h x rfl depth hdepth
    have hne : Outline.ofJson (toJson x) ≠ .null := by
      cases hj : toJson x with
      | null => exact absurd hj (hnull x)
      | _ => simp [Outline.ofJson]
    rw [Json.ofOption, optional_of_ne_null hne, hx]
    rfl

end

theorem reads_record {σ α : Type} {r : RecordDecoder σ} {start : σ} (state : σ)
    {finish : (String → DocumentError) → σ → Except DocumentError α}
    {fields : List (String × Json)} {x : α}
    (hentries : ∀ depth, Json.depthFields fields ≤ depth →
      r.entries depth true start (Outline.ofFields fields) = .ok state)
    (hfinish : finish .missingField state = .ok x) :
    Reads (r.decode start finish) (.object fields) x := by
  intro depth hdepth
  cases depth with
  | zero => simp [Json.depth] at hdepth
  | succ depth =>
    rw [Outline.ofJson, RecordDecoder.decode, enter]
    simp only [hentries depth (Nat.le_of_succ_le_succ hdepth)]
    exact hfinish

end Document

end ObjectQuery
