import Mathlib.Data.List.Nodup
import ObjectQuery.Proofs.Restriction.Gap

/-! Written locations. The steps of a location stand between points, which no step has in it, and
an index stands in brackets, so that a location can be read back. -/

namespace ObjectQuery.Restriction

namespace Step

/-- A step with an index and the bracket behind it. -/
def indexed? (step : Nat → Step) (cs : List Char) : Option Step :=
  let digits := cs.dropLast
  if cs.getLast? = some ']' ∧ digits ≠ [] ∧ digits.all Char.isDigit then
    some (step (Nat.ofDigitChars 10 digits 0))
  else none

def ofText? : List Char → Option Step
  | 'a' :: 'n' :: 'd' :: '[' :: rest => indexed? .and rest
  | 'o' :: 'r' :: '[' :: rest => indexed? .or rest
  | ['n', 'o', 't'] => some .not
  | _ => none

theorem toList_text_and (index : Nat) :
    (Step.and index).text.toList = "and[".toList ++ (Nat.toDigits 10 index ++ [']']) := by
  simp [text, toString, Nat.toList_repr]

theorem toList_text_or (index : Nat) :
    (Step.or index).text.toList = "or[".toList ++ (Nat.toDigits 10 index ++ [']']) := by
  simp [text, toString, Nat.toList_repr]

theorem indexed?_toDigits (step : Nat → Step) (index : Nat) :
    indexed? step (Nat.toDigits 10 index ++ [']']) = some (step index) := by
  have hdigits : (Nat.toDigits 10 index).all Char.isDigit = true :=
    List.all_eq_true.mpr fun _ => Nat.isDigit_of_mem_toDigits (by omega) (by omega)
  simp [indexed?, hdigits, Nat.toDigits_ne_nil, Nat.ofDigitChars_ten_toDigits]

theorem ofText?_text (step : Step) : ofText? step.text.toList = some step := by
  cases step with
  | and index => rw [toList_text_and]; exact indexed?_toDigits .and index
  | or index => rw [toList_text_or]; exact indexed?_toDigits .or index
  | not => rfl

theorem point_not_mem_text (step : Step) : '.' ∉ step.text.toList := by
  have hdigits (index : Nat) : '.' ∉ Nat.toDigits 10 index := fun h =>
    absurd (Nat.isDigit_of_mem_toDigits (by omega) (by omega) h) (by decide)
  cases step with
  | and index => rw [toList_text_and]; simp [hdigits]
  | or index => rw [toList_text_or]; simp [hdigits]
  | not => decide

end Step

def location? (text : String) : Option (List Step) :=
  (text.toList.splitOn '.').mapM Step.ofText?

theorem location?_locationText {location : List Step} (h : location ≠ []) :
    location? (locationText location) = some location := by
  have hsplit : (locationText location).toList.splitOn '.' =
      location.map (·.text.toList) := by
    rw [locationText, String.toList_intercalate, List.map_map]
    refine List.splitOn_intercalate '.' (fun part hpart => ?_) (by simpa using h)
    obtain ⟨step, -, rfl⟩ := List.mem_map.mp hpart
    exact step.point_not_mem_text
  have hread : Step.ofText? ∘ (fun step : Step => step.text.toList) = some :=
    funext Step.ofText?_text
  rw [location?, hsplit, List.mapM_map, hread]
  exact List.mapM_pure.trans (congrArg some (List.map_id location))

/-- The texts of the locations of all placeholders of a tree. They differ, each can be read as the
way to a placeholder, and they stand in the order of these, from left to right. -/
structure LocatesGaps (r : Restriction) (texts : List String) : Prop where
  nodup : texts.Nodup
  exists_locations : ∃ locations : List (List Step),
    texts.map location? = locations.map some ∧ locations.Pairwise Precedes ∧
    ∀ location, location ∈ locations ↔ at? (some r) location = some none

theorem locatesGaps (r : Restriction) : r.LocatesGaps (r.gaps.map locationText) := by
  have hread : (r.gaps.map locationText).map location? = r.gaps.map some := by
    rw [List.map_map, List.map_inj_left]
    intro location hl
    refine location?_locationText fun hnil => ?_
    rw [mem_gaps_iff, hnil] at hl
    cases hl
  have hnodup : r.gaps.Nodup := r.gaps_pairwise.imp Precedes.ne
  constructor
  case nodup =>
    apply List.Nodup.of_map location?
    rw [hread]
    exact hnodup.map fun _ _ => Option.some.inj
  case exists_locations => exact ⟨r.gaps, hread, r.gaps_pairwise, fun _ => mem_gaps_iff⟩

end ObjectQuery.Restriction
