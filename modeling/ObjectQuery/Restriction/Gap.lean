import ObjectQuery.Restriction.Basic

/-! Where a filter tree has placeholders. A location leads from the root to a placeholder through
the children of composites and negations. -/

namespace ObjectQuery.Restriction

inductive Step where
  | and (index : Nat)
  | or (index : Nat)
  | not
  deriving Repr, DecidableEq

def Step.text : Step → String
  | .and index => s!"and[{index}]"
  | .or index => s!"or[{index}]"
  | .not => "not"

/-- Written like `or[0].not.and[2]`. -/
def locationText (location : List Step) : String :=
  ".".intercalate (location.map Step.text)

mutual

/-- The locations of all placeholders, depth first and from left to right. -/
def gaps : Restriction → List (List Step)
  | .simple _ _ _ => []
  | .and children => childGaps .and 0 children
  | .or children => childGaps .or 0 children
  | .not child => child.gaps.map (.not :: ·)
  | .arbitrary _ => []

def childGaps (step : Nat → Step) (index : Nat) : List (Option Restriction) → List (List Step)
  | [] => []
  | none :: rest => [step index] :: childGaps step (index + 1) rest
  | some child :: rest =>
    child.gaps.map (step index :: ·) ++ childGaps step (index + 1) rest

end

end ObjectQuery.Restriction
