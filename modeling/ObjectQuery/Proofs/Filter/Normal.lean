import ObjectQuery.Proofs.Filter.Run
import ObjectQuery.Proofs.Meaning.Condition
import ObjectQuery.Restriction.Gap

/-! Filters in normal form. Placeholders, branches without a leaf and composites of one child say
nothing; a filter compiles like what is left when they are gone. -/

namespace ObjectQuery

namespace Restriction

/-- Puts a composite back together; one child needs none, and no child says nothing. -/
def rejoin (connective : List (Option Restriction) → Restriction) :
    List Restriction → Option Restriction
  | [] => none
  | [child] => some child
  | children => some (connective (children.map some))

mutual

/-- What is left of a restriction that has a leaf. -/
def normalize : Restriction → Option Restriction
  | .simple path operator values => some (.simple path operator values)
  | .and children => rejoin .and (normalizeChildren children)
  | .or children => rejoin .or (normalizeChildren children)
  | .not child => child.normalize.map .not
  | .arbitrary text => some (.arbitrary text)

def normalizeChildren : List (Option Restriction) → List Restriction
  | [] => []
  | none :: rest => normalizeChildren rest
  | some child :: rest => child.normalize.toList ++ normalizeChildren rest

end

theorem rejoin_of_two_le {children : List Restriction} (h : 2 ≤ children.length)
    (connective : List (Option Restriction) → Restriction) :
    rejoin connective children = some (connective (children.map some)) := by
  match children with
  | [] | [_] => simp at h
  | _ :: _ :: _ => rfl

theorem isSome_rejoin (connective : List (Option Restriction) → Restriction)
    (children : List Restriction) : (rejoin connective children).isSome = !children.isEmpty := by
  match children with
  | [] | [_] | _ :: _ :: _ => rfl

mutual

/-- Something is left exactly where there is a leaf. -/
theorem isSome_normalize : ∀ r : Restriction, r.normalize.isSome = r.hasLeaf
  | .simple _ _ _ => rfl
  | .and children => by
    rw [normalize, isSome_rejoin, isEmpty_normalizeChildren children, Bool.not_not, hasLeaf]
  | .or children => by
    rw [normalize, isSome_rejoin, isEmpty_normalizeChildren children, Bool.not_not, hasLeaf]
  | .not child => by
    rw [normalize, Option.isSome_map, isSome_normalize child, hasLeaf]
  | .arbitrary _ => rfl

theorem isEmpty_normalizeChildren : ∀ children : List (Option Restriction),
    (normalizeChildren children).isEmpty = !anyHasLeaf children
  | [] => rfl
  | none :: rest => isEmpty_normalizeChildren rest
  | some child :: rest => by
    have hrest := isEmpty_normalizeChildren rest
    rw [normalizeChildren, anyHasLeaf, ← isSome_normalize child]
    cases child.normalize with
    | none => simpa using hrest
    | some t => rfl

end

/-- No placeholder, and no composite of less than two children. -/
inductive Normal : Restriction → Prop
  | simple (path : String) (operator : Operator) (values : List Value) :
      Normal (.simple path operator values)
  | and {children : List Restriction} (hl : 2 ≤ children.length) (h : ∀ r ∈ children, r.Normal) :
      Normal (.and (children.map some))
  | or {children : List Restriction} (hl : 2 ≤ children.length) (h : ∀ r ∈ children, r.Normal) :
      Normal (.or (children.map some))
  | not {child : Restriction} (h : child.Normal) : Normal (.not child)
  | arbitrary (text : String) : Normal (.arbitrary text)

theorem Normal.of_rejoin {connective : List (Option Restriction) → Restriction}
    (hc : ∀ {rs : List Restriction}, 2 ≤ rs.length → (∀ r ∈ rs, r.Normal) →
      (connective (rs.map some)).Normal)
    {children : List Restriction} (h : ∀ r ∈ children, r.Normal) {t : Restriction}
    (ht : rejoin connective children = some t) : t.Normal := by
  match children with
  | [] => cases ht
  | [child] =>
    obtain rfl := Option.some.inj ht
    exact h child (by simp)
  | first :: second :: rest =>
    cases ht
    exact hc (by simp) h

mutual

theorem normal_normalize : ∀ {r t : Restriction}, r.normalize = some t → t.Normal
  | .simple path operator values, t, h => by
    cases h; exact .simple path operator values
  | .and children, t, h => .of_rejoin .and (normal_normalizeChildren children) h
  | .or children, t, h => .of_rejoin .or (normal_normalizeChildren children) h
  | .not child, t, h => by
    obtain ⟨inner, hinner, rfl⟩ := Option.map_eq_some_iff.mp h
    exact .not (normal_normalize hinner)
  | .arbitrary text, t, h => by
    cases h; exact .arbitrary text

theorem normal_normalizeChildren : ∀ (children : List (Option Restriction)),
    ∀ t ∈ normalizeChildren children, t.Normal
  | [], t, ht => by simp [normalizeChildren] at ht
  | none :: rest, t, ht => normal_normalizeChildren rest t ht
  | some child :: rest, t, ht => by
    rcases List.mem_append.mp ht with ht | ht
    · exact normal_normalize (Option.mem_toList.mp ht)
    · exact normal_normalizeChildren rest t ht

end

theorem normalizeChildren_map_some {children : List Restriction}
    (h : ∀ r ∈ children, r.normalize = some r) :
    normalizeChildren (children.map some) = children := by
  induction children with
  | nil => rfl
  | cons r rest ih =>
    have hr := h r (by simp)
    have hrest := ih fun t ht => h t (List.mem_cons_of_mem _ ht)
    simp [normalizeChildren, hr, hrest]

/-- A normal form is left as it is. -/
theorem Normal.normalize_eq {r : Restriction} (h : r.Normal) : r.normalize = some r := by
  induction h with
  | simple path operator values => rfl
  | and hl _ ih => rw [normalize, normalizeChildren_map_some ih, rejoin_of_two_le hl]
  | or hl _ ih => rw [normalize, normalizeChildren_map_some ih, rejoin_of_two_le hl]
  | not _ ih => rw [normalize, ih, Option.map_some]
  | arbitrary text => rfl

example : normalize (.or [none, some (.not (.and [none])),
    some (.and [some (.not (.or [some (.arbitrary "a")]))])]) = some (.not (.arbitrary "a")) := rfl

theorem childGaps_map_some (step : Nat → Step) (index : Nat) {children : List Restriction}
    (h : ∀ r ∈ children, r.gaps = []) : childGaps step index (children.map some) = [] := by
  induction children generalizing index with
  | nil => rfl
  | cons r rest ih =>
    have hr := h r (by simp)
    have hrest := ih (index + 1) fun t ht => h t (List.mem_cons_of_mem _ ht)
    simp [childGaps, hr, hrest]

theorem Normal.gaps_eq_nil {r : Restriction} (h : r.Normal) : r.gaps = [] := by
  induction h with
  | simple path operator values => rfl
  | and _ _ ih => exact childGaps_map_some _ _ ih
  | or _ _ ih => exact childGaps_map_some _ _ ih
  | not _ ih => rw [gaps, ih, List.map_nil]
  | arbitrary text => rfl

theorem childPaths_map_some (children : List Restriction) :
    childPaths (children.map some) = children.flatMap paths := by
  induction children with
  | nil => rfl
  | cons r rest ih => rw [List.map_cons, childPaths, ih, List.flatMap_cons]

theorem elim_paths_rejoin {connective : List (Option Restriction) → Restriction}
    (hc : ∀ children, (connective children).paths = childPaths children)
    (children : List Restriction) :
    (rejoin connective children).elim [] paths = children.flatMap paths := by
  match children with
  | [] => rfl
  | [child] => simp [rejoin]
  | first :: second :: rest => exact (hc _).trans (childPaths_map_some _)

mutual

theorem elim_paths_normalize : ∀ r : Restriction, r.normalize.elim [] paths = r.paths
  | .simple _ _ _ => rfl
  | .and children => (elim_paths_rejoin (fun _ => rfl) _).trans (flatMap_paths_normalize children)
  | .or children => (elim_paths_rejoin (fun _ => rfl) _).trans (flatMap_paths_normalize children)
  | .not child => by
    have hchild := elim_paths_normalize child
    rw [normalize, paths]
    cases hn : child.normalize with
    | none => simpa [hn] using hchild
    | some t => simpa [hn, paths] using hchild
  | .arbitrary _ => rfl

theorem flatMap_paths_normalize : ∀ children : List (Option Restriction),
    (normalizeChildren children).flatMap paths = childPaths children
  | [] => rfl
  | none :: rest => flatMap_paths_normalize rest
  | some child :: rest => by
    have hchild := elim_paths_normalize child
    rw [normalizeChildren, List.flatMap_append, flatMap_paths_normalize rest, childPaths, ← hchild]
    cases child.normalize <;> simp

end

end Restriction

open Restriction (normalizeChildren rejoin)

theorem combine_toList (connective : List Expr → Expr) (o : Option Expr) :
    combine connective o.toList = o := by
  cases o <;> rfl

section

variable (resolver : Resolver)

/-- The condition of a filter that may say nothing. -/
def conditionOf? (o : Option Restriction) (b : Bindings) :
    Except CompileError (Option Expr × Bindings) :=
  match o with
  | some r => filterCondition resolver r b
  | none => .ok (none, b)

theorem conditionOf?_rejoin {connective : List (Option Restriction) → Restriction}
    {join : List Expr → Expr}
    (hc : ∀ children b, filterCondition resolver (connective children) b = do
      let (operands, b) ← operandConditions resolver children b
      return (combine join operands, b))
    (children : List Restriction) (b : Bindings) :
    conditionOf? resolver (rejoin connective children) b = do
      let (operands, b) ← operandConditions resolver (children.map some) b
      return (combine join operands, b) := by
  match children with
  | [] => rfl
  | [child] =>
    rw [List.map_singleton, operandConditions_child]
    change filterCondition resolver child b = _
    cases filterCondition resolver child b with
    | error e => rfl
    | ok r =>
      have hr : combine join (r.1.toList ++ []) = r.1 := by
        rw [List.append_nil, combine_toList]
      exact congrArg (fun o => Except.ok (o, r.2)) hr.symm
  | first :: second :: rest => exact hc _ b

mutual

/-- A filter compiles like its normal form. -/
theorem conditionOf?_normalize : ∀ (r : Restriction) (b : Bindings),
    conditionOf? resolver r.normalize b = filterCondition resolver r b
  | .simple _ _ _, _ => rfl
  | .and children, b => by
    rw [Restriction.normalize,
      conditionOf?_rejoin resolver (fun children b => filterCondition_and ..),
      operandConditions_normalizeChildren children, filterCondition_and]
  | .or children, b => by
    rw [Restriction.normalize,
      conditionOf?_rejoin resolver (fun children b => filterCondition_or ..),
      operandConditions_normalizeChildren children, filterCondition_or]
  | .not child, b => by
    rw [filterCondition_not, ← conditionOf?_normalize child, Restriction.normalize]
    cases child.normalize with
    | none => rfl
    | some t => exact filterCondition_not ..
  | .arbitrary _, _ => rfl

theorem operandConditions_normalizeChildren :
    ∀ (children : List (Option Restriction)) (b : Bindings),
      operandConditions resolver ((normalizeChildren children).map some) b =
        operandConditions resolver children b
  | [], _ => rfl
  | none :: rest, b => operandConditions_normalizeChildren rest b
  | some child :: rest, b => by
    rw [operandConditions_child, ← conditionOf?_normalize child, normalizeChildren]
    cases child.normalize with
    | none =>
      change operandConditions resolver ((normalizeChildren rest).map some) b = _
      rw [operandConditions_normalizeChildren rest]
      exact (bind_pure (operandConditions resolver rest b)).symm
    | some t =>
      change operandConditions resolver (some t :: (normalizeChildren rest).map some) b = _
      rw [operandConditions_child]
      simp only [operandConditions_normalizeChildren rest]
      rfl

end

end

end ObjectQuery
