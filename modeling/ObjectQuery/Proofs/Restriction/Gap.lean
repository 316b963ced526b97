import Mathlib.Data.Nat.Basic
import ObjectQuery.Restriction.Gap

/-! The placeholders of a filter tree and the ways to them. Each is found once, from left to right,
and the text of its location leads back to it. -/

namespace ObjectQuery.Restriction

/-- The child that a step leads to. There is one only if the step is of the kind of the node. -/
def child? : Restriction → Step → Option (Option Restriction)
  | .and children, .and index => children[index]?
  | .or children, .or index => children[index]?
  | .not child, .not => some (some child)
  | _, _ => none

/-- What stands at a location. Nothing lies below a placeholder, which is `none`. -/
def at? (node : Option Restriction) : List Step → Option (Option Restriction)
  | [] => some node
  | step :: rest =>
    match node with
    | none => none
    | some r => (r.child? step).bind fun child => at? child rest

/-- A step to one of the children, which are numbered from an index on, and a way from there to a
placeholder. -/
def LeadsToGap (step : Nat → Step) (index : Nat) (children : List (Option Restriction))
    (location : List Step) : Prop :=
  ∃ i rest, location = step (index + i) :: rest ∧
    children[i]?.bind (fun child => at? child rest) = some none

section

variable {step : Nat → Step} {index : Nat} {child : Option Restriction}
  {children : List (Option Restriction)} {location : List Step}

theorem not_leadsToGap_nil : ¬ LeadsToGap step index [] location := by
  simp [LeadsToGap]

theorem leadsToGap_cons_iff : LeadsToGap step index (child :: children) location ↔
    (∃ rest, location = step index :: rest ∧ at? child rest = some none) ∨
      LeadsToGap step (index + 1) children location := by
  have hnext (i : Nat) : step (index + (i + 1)) = step (index + 1 + i) :=
    congrArg step (Nat.add_right_comm index 1 i).symm
  constructor
  · rintro ⟨i, rest, rfl, h⟩
    cases i with
    | zero => exact .inl ⟨rest, rfl, h⟩
    | succ i => exact .inr ⟨i, rest, by rw [hnext], h⟩
  · rintro (⟨rest, rfl, h⟩ | ⟨i, rest, rfl, h⟩)
    · exact ⟨0, rest, rfl, h⟩
    · exact ⟨i + 1, rest, by rw [hnext], h⟩

theorem at?_gap_iff : at? none location = some none ↔ location = [] := by
  cases location <;> simp [at?]

theorem at?_composite_iff {r : Restriction} (h : ∀ s child,
    r.child? s = some child ↔ ∃ i, s = step i ∧ children[i]? = some child) :
    at? (some r) location = some none ↔ LeadsToGap step 0 children location := by
  cases location with
  | nil => simp [at?, LeadsToGap]
  | cons s rest =>
    simp only [at?, Option.bind_eq_some_iff, h, LeadsToGap, Nat.zero_add, List.cons.injEq]
    constructor
    · rintro ⟨child, ⟨i, rfl, hi⟩, hchild⟩
      exact ⟨i, rest, ⟨rfl, rfl⟩, child, hi, hchild⟩
    · rintro ⟨i, _, ⟨rfl, rfl⟩, child, hi, hchild⟩
      exact ⟨child, ⟨i, rfl, hi⟩, hchild⟩

theorem at?_not_iff {child : Restriction} : at? (some (.not child)) location = some none ↔
    ∃ rest, at? (some child) rest = some none ∧ .not :: rest = location := by
  constructor
  · intro h
    match location with
    | .not :: rest => exact ⟨rest, h, rfl⟩
  · rintro ⟨rest, h, rfl⟩
    exact h

end

mutual

/-- The locations are those where a placeholder stands. -/
theorem mem_gaps_iff : ∀ {r : Restriction} {location : List Step},
    location ∈ r.gaps ↔ at? (some r) location = some none
  | .simple path operator values, location => by
    cases location <;> simp [gaps, at?, child?]
  | .and children, location => by
    have hand : ∀ s child, (Restriction.and children).child? s = some child ↔
        ∃ i, s = .and i ∧ children[i]? = some child := fun s _ => by cases s <;> simp [child?]
    rw [gaps, mem_childGaps_iff, at?_composite_iff hand]
  | .or children, location => by
    have hor : ∀ s child, (Restriction.or children).child? s = some child ↔
        ∃ i, s = .or i ∧ children[i]? = some child := fun s _ => by cases s <;> simp [child?]
    rw [gaps, mem_childGaps_iff, at?_composite_iff hor]
  | .not child, location => by simp only [gaps, List.mem_map, mem_gaps_iff, at?_not_iff]
  | .arbitrary text, location => by
    cases location <;> simp [gaps, at?, child?]

theorem mem_childGaps_iff : ∀ {step : Nat → Step} {index : Nat}
    {children : List (Option Restriction)} {location : List Step},
    location ∈ childGaps step index children ↔ LeadsToGap step index children location
  | step, index, [], location => by simp [childGaps, not_leadsToGap_nil]
  | step, index, none :: rest, location => by
    rw [childGaps, List.mem_cons, mem_childGaps_iff, leadsToGap_cons_iff]
    simp [at?_gap_iff]
  | step, index, some child :: rest, location => by
    rw [childGaps, List.mem_append, List.mem_map, mem_childGaps_iff, leadsToGap_cons_iff]
    simp only [mem_gaps_iff, and_comm, eq_comm]

end

/-- The place of a child among its siblings. -/
def Step.index : Step → Nat
  | .and index => index
  | .or index => index
  | .not => 0

/-- To the left: at the first node where the ways part, by an earlier child. -/
def Precedes (l l' : List Step) : Prop :=
  l.map Step.index < l'.map Step.index

theorem precedes_cons_iff {step : Step} {l l' : List Step} :
    Precedes (step :: l) (step :: l') ↔ Precedes l l' := by
  simp [Precedes]

theorem Precedes.ne {l l' : List Step} (h : Precedes l l') : l ≠ l' := by
  rintro rfl
  exact List.lt_irrefl _ h

/-- Siblings are told apart by their places. -/
theorem LeadsToGap.precedes {step : Nat → Step} (hstep : ∀ i, (step i).index = i) {index : Nat}
    {children : List (Option Restriction)} {location : List Step}
    (h : LeadsToGap step (index + 1) children location) (rest : List Step) :
    Precedes (step index :: rest) location := by
  obtain ⟨i, rest', rfl, -⟩ := h
  refine List.cons_lt_cons_iff.mpr (.inl ?_)
  rw [hstep, hstep]
  omega

mutual

theorem gaps_pairwise : ∀ r : Restriction, r.gaps.Pairwise Precedes
  | .simple _ _ _ => .nil
  | .and children => childGaps_pairwise (fun _ => rfl) 0 children
  | .or children => childGaps_pairwise (fun _ => rfl) 0 children
  | .not child => by
    rw [gaps, List.pairwise_map]
    exact (gaps_pairwise child).imp precedes_cons_iff.mpr
  | .arbitrary _ => .nil

theorem childGaps_pairwise {step : Nat → Step} (hstep : ∀ i, (step i).index = i) (index : Nat) :
    ∀ children : List (Option Restriction), (childGaps step index children).Pairwise Precedes
  | [] => .nil
  | none :: rest => by
    rw [childGaps, List.pairwise_cons]
    exact ⟨fun l hl => (mem_childGaps_iff.mp hl).precedes hstep [],
      childGaps_pairwise hstep (index + 1) rest⟩
  | some child :: rest => by
    rw [childGaps, List.pairwise_append, List.pairwise_map]
    refine ⟨(gaps_pairwise child).imp precedes_cons_iff.mpr,
      childGaps_pairwise hstep (index + 1) rest, fun l hl l' hl' => ?_⟩
    obtain ⟨tail, -, rfl⟩ := List.mem_map.mp hl
    exact (mem_childGaps_iff.mp hl').precedes hstep tail

end

end ObjectQuery.Restriction
