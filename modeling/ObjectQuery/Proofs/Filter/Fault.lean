import ObjectQuery.Proofs.Filter.Run

/-! Filters that are refused. Nothing but the values of a simple restriction can be at fault, and
the error names the first one at fault, depth first and from left to right. -/

namespace ObjectQuery

/-- A simple restriction within a filter. -/
structure Leaf where
  path : String
  operator : Operator
  values : List Value

namespace Leaf

/-- An operator is refused that does not take as many values, or that does not take null. -/
def fault? (l : Leaf) : Option ValueFault :=
  if l.operator = .in ∨ l.operator = .notIn then
    if l.values.length = 0 then some .noValue else none
  else if l.operator = .between then
    if l.values.length = 2 then none else some .notTwo
  else if l.values.length = 1 then
    if l.values.any Value.isNull ∧ l.operator ≠ .equals ∧ l.operator ≠ .notEquals then
      some .comparedWithNull
    else none
  else some .notOne

def error? (l : Leaf) : Option CompileError :=
  l.fault?.map (.invalidRestriction l.path l.operator)

end Leaf

namespace Restriction

mutual

def leaves : Restriction → List Leaf
  | .simple path operator values => [⟨path, operator, values⟩]
  | .and children => childLeaves children
  | .or children => childLeaves children
  | .not child => child.leaves
  | .arbitrary _ => []

def childLeaves : List (Option Restriction) → List Leaf
  | [] => []
  | none :: rest => childLeaves rest
  | some child :: rest => child.leaves ++ childLeaves rest

end

mutual

theorem map_path_leaves : ∀ r : Restriction, r.leaves.map Leaf.path = r.paths
  | .simple _ _ _ | .arbitrary _ => rfl
  | .and children | .or children => map_path_childLeaves children
  | .not child => map_path_leaves child

theorem map_path_childLeaves : ∀ children : List (Option Restriction),
    (childLeaves children).map Leaf.path = childPaths children
  | [] => rfl
  | none :: rest => map_path_childLeaves rest
  | some child :: rest => by
    rw [childLeaves, List.map_append, map_path_leaves child, map_path_childLeaves rest, childPaths]

end

end Restriction

section

variable {ε α β : Type}

def errorOf? : Except ε α → Option ε
  | .error e => some e
  | .ok _ => none

theorem errorOf?_eq_some_iff {x : Except ε α} {e : ε} : errorOf? x = some e ↔ x = .error e := by
  cases x <;> simp [errorOf?]

theorem errorOf?_eq_none_iff {x : Except ε α} : errorOf? x = none ↔ ∃ a, x = .ok a := by
  cases x <;> simp [errorOf?]

/-- Of two steps the first one decides, and then the second one, whatever it is given. -/
theorem errorOf?_bind {x : Except ε α} {f : α → Except ε β} {o : Option ε}
    (h : ∀ a, errorOf? (f a) = o) : errorOf? (x >>= f) = (errorOf? x).or o := by
  cases x with
  | error e => rfl
  | ok a => exact h a

theorem errorOf?_bind_none {x : Except ε α} {f : α → Except ε β} (h : ∀ a, errorOf? (f a) = none) :
    errorOf? (x >>= f) = errorOf? x := by
  rw [errorOf?_bind h, Option.or_none]

theorem errorOf?_mapError {δ : Type} (x : Except ε α) (f : ε → δ) :
    errorOf? (x.mapError f) = (errorOf? x).map f := by
  cases x <;> rfl

end

section

variable {operator : Operator} (target : Expr) (base : String) (b : Bindings)

theorem scalarCondition_eq_none_iff (v : Value) (hin : operator ≠ .in) (hnotIn : operator ≠ .notIn)
    (hbetween : operator ≠ .between) :
    scalarCondition target base operator v b = none ↔
      v.isNull = true ∧ operator ≠ .equals ∧ operator ≠ .notEquals := by
  by_cases hv : v.isNull = true
  · cases operator <;> simp [scalarCondition, hv]
  · cases operator <;> simp_all [scalarCondition, Operator.comparison?, Operator.pattern?]

theorem errorOf?_valueCondition (path : String) (values : List Value) :
    errorOf? (valueCondition target base operator values b) =
      Leaf.fault? ⟨path, operator, values⟩ := by
  by_cases hlist : operator = .in ∨ operator = .notIn
  · cases values with
    | nil => simp [valueCondition, Leaf.fault?, hlist, errorOf?]
    | cons v rest => simp [valueCondition, Leaf.fault?, hlist, errorOf?]
  · by_cases hrange : operator = .between
    · match values with
      | [low, high] => simp [valueCondition, Leaf.fault?, hrange, errorOf?]
      | [] | [_] | _ :: _ :: _ :: _ => simp [valueCondition, Leaf.fault?, hrange, errorOf?]
    · match values with
      | [v] =>
        have hnone := scalarCondition_eq_none_iff target base b v (fun h => hlist (.inl h))
          (fun h => hlist (.inr h)) hrange
        cases hs : scalarCondition target base operator v b with
        | none => simp [valueCondition, Leaf.fault?, hlist, hrange, errorOf?, hs, hnone.mp hs]
        | some result =>
          have hgood := mt hnone.mpr (by simp [hs])
          simp only [valueCondition, Leaf.fault?, hlist, hrange, errorOf?, hs]
          simp [hgood]
      | [] | _ :: _ :: _ => simp [valueCondition, Leaf.fault?, hlist, hrange, errorOf?]

end

section

variable (resolver : Resolver)

theorem errorOf?_simpleCondition (path : String) (operator : Operator) (values : List Value)
    (b : Bindings) : errorOf? (simpleCondition resolver path operator values b) =
      Leaf.error? ⟨path, operator, values⟩ := by
  rw [simpleCondition_eq, errorOf?_mapError, errorOf?_valueCondition _ _ _ path]
  rfl

mutual

/-- Arguments that are bound already have no part in it. -/
theorem errorOf?_filterCondition : ∀ (r : Restriction) (b : Bindings),
    errorOf? (filterCondition resolver r b) = r.leaves.findSome? Leaf.error?
  | .simple path operator values, b => by
    rw [filterCondition_simple, errorOf?_bind_none fun _ => rfl, errorOf?_simpleCondition,
      Restriction.leaves, List.findSome?_singleton]
  | .and children, b => by
    rw [filterCondition_and, errorOf?_bind_none fun _ => rfl, errorOf?_operandConditions children]
    rfl
  | .or children, b => by
    rw [filterCondition_or, errorOf?_bind_none fun _ => rfl, errorOf?_operandConditions children]
    rfl
  | .not child, b => by
    rw [filterCondition_not, errorOf?_bind_none fun _ => rfl, errorOf?_filterCondition child]
    rfl
  | .arbitrary text, b => rfl

theorem errorOf?_operandConditions : ∀ (children : List (Option Restriction)) (b : Bindings),
    errorOf? (operandConditions resolver children b) =
      (Restriction.childLeaves children).findSome? Leaf.error?
  | [], b => rfl
  | none :: rest, b => errorOf?_operandConditions rest b
  | some child :: rest, b => by
    have hrest : ∀ (operand : Option Expr) (b : Bindings),
        errorOf? (do
          let (operands, b) ← operandConditions resolver rest b
          return (operand.toList ++ operands, b)) =
            (Restriction.childLeaves rest).findSome? Leaf.error? := by
      intro operand b
      rw [errorOf?_bind_none fun _ => rfl, errorOf?_operandConditions rest]
    rw [operandConditions_child, Restriction.childLeaves, List.findSome?_append,
      ← errorOf?_filterCondition child b]
    exact errorOf?_bind fun r => hrest r.1 r.2

end

end

end ObjectQuery
