import ObjectQuery.Clause.Filter

/-! What conditions and filters mean in three-valued logic. A condition is read with the arguments
that are bound to its placeholders, a filter with the values it holds itself. -/

namespace ObjectQuery

/-- A comparison with null is neither true nor false. -/
inductive Truth where
  | no
  | unknown
  | yes
  deriving Repr, DecidableEq

namespace Truth

def ofBool (b : Bool) : Truth :=
  if b then .yes else .no

def not : Truth → Truth
  | .no => .yes
  | .unknown => .unknown
  | .yes => .no

def and : Truth → Truth → Truth
  | .no, _ => .no
  | _, .no => .no
  | .yes, .yes => .yes
  | _, _ => .unknown

def or : Truth → Truth → Truth
  | .yes, _ => .yes
  | _, .yes => .yes
  | .no, .no => .no
  | _, _ => .unknown

def all (truths : List Truth) : Truth :=
  truths.foldr and .yes

def any (truths : List Truth) : Truth :=
  truths.foldr or .no

theorem all_singleton (t : Truth) : all [t] = t := by
  cases t <;> rfl

theorem any_singleton (t : Truth) : any [t] = t := by
  cases t <;> rfl

theorem any_pair_yes (t : Truth) : any [t, .yes] = .yes := by
  cases t <;> rfl

theorem any_pair_no (t : Truth) : any [t, .no] = t := by
  cases t <;> rfl

theorem any_ofBool (bs : List Bool) : any (bs.map ofBool) = ofBool (bs.any id) := by
  induction bs with
  | nil => rfl
  | cons b rest ih =>
    have hor : any ((b :: rest).map ofBool) = (ofBool b).or (any (rest.map ofBool)) := rfl
    rw [hor, ih]
    cases b <;> cases hr : rest.any id <;> simp [ofBool, or, hr]

theorem ofBool_eq_yes {b : Bool} : ofBool b = .yes ↔ b = true := by
  cases b <;> simp [ofBool]

end Truth

/-- How a store compares values that are not null, and matches a text with a pattern. -/
structure Store where
  compare : Comparison → Value → Value → Bool
  matchesLike : Value → Value → Bool

namespace Store

variable (store : Store)

def comparison (op : Comparison) (x y : Value) : Truth :=
  if x.isNull || y.isNull then .unknown else .ofBool (store.compare op x y)

def likeness (x pattern : Value) : Truth :=
  if x.isNull || pattern.isNull then .unknown else .ofBool (store.matchesLike x pattern)

def membership (x : Value) (values : List Value) : Truth :=
  .any (values.map (store.comparison .eq x))

def range (x low high : Value) : Truth :=
  (store.comparison .gte x low).and (store.comparison .lte x high)

end Store

/-- The value of every attribute, by the alias of its owner and its field, and the truth of every
predicate text. -/
structure Valuation where
  valueOf : String → String → Value
  truthOf : String → Truth

namespace Bindings

def scalar? (b : Bindings) (name : String) : Option Value :=
  match b.find? name with
  | some (.scalar v) => some v
  | _ => none

def list? (b : Bindings) (name : String) : Option (List Value) :=
  match b.find? name with
  | some (.list values) => some values
  | _ => none

end Bindings

namespace Expr

section

variable (store : Store) (v : Valuation) (root : String) (b : Bindings)

/-- The value of an operand. A bare star is the attribute `*` of the root. -/
def value? : Expr → Option Value
  | .column owner field => some (v.valueOf owner field)
  | .star => some (v.valueOf root "*")
  | .int n => some (.int (.ofInt n))
  | .str s => some (.string s)
  | .param name => b.scalar? name
  | _ => none

@[simp] theorem value?_param (name : String) : (Expr.param name).value? v root b = b.scalar? name :=
  rfl

mutual

/-- The truth of a condition; a placeholder without an argument of its kind has none. -/
def truth? : Expr → Option Truth
  | .compare op left right => do
    return store.comparison op (← left.value? v root b) (← right.value? v root b)
  | .like e pattern => do
    return store.likeness (← e.value? v root b) (← pattern.value? v root b)
  | .in negated e name => do
    let t := store.membership (← e.value? v root b) (← b.list? name)
    return if negated then t.not else t
  | .between e low high => do
    return store.range (← e.value? v root b) (← low.value? v root b) (← high.value? v root b)
  | .isNull negated e => do
    return .ofBool ((← e.value? v root b).isNull != negated)
  | .and operands => (truths? operands).map .all
  | .or operands => (truths? operands).map .any
  | .not e => e.truth?.map .not
  | .paren e => e.truth?
  | .raw text => some (v.truthOf text)
  | _ => none

def truths? : List Expr → Option (List Truth)
  | [] => some []
  | e :: rest => do return (← e.truth?) :: (← truths? rest)

end

end

end Expr

def Operator.truth (store : Store) (x : Value) : Operator → List Value → Truth
  | .equals, [.null] => .ofBool x.isNull
  | .notEquals, [.null] => .ofBool (!x.isNull)
  | .equals, [y] => store.comparison .eq x y
  | .notEquals, [y] => store.comparison .ne x y
  | .greaterThan, [y] => store.comparison .gt x y
  | .greaterThanOrEqual, [y] => store.comparison .gte x y
  | .lessThan, [y] => store.comparison .lt x y
  | .lessThanOrEqual, [y] => store.comparison .lte x y
  | .like, [y] => store.likeness x (.string y.patternText)
  | .startsWith, [y] => store.likeness x (.string (y.patternText ++ "%"))
  | .contains, [y] => store.likeness x (.string ("%" ++ y.patternText ++ "%"))
  | .in, values => store.membership x values
  | .notIn, values => (store.membership x values).not
  | .between, [low, high] => store.range x low high
  | _, _ => .unknown

namespace Restriction

mutual

def hasLeaf : Restriction → Bool
  | .simple _ _ _ => true
  | .and children => anyHasLeaf children
  | .or children => anyHasLeaf children
  | .not child => child.hasLeaf
  | .arbitrary _ => true

def anyHasLeaf : List (Option Restriction) → Bool
  | [] => false
  | none :: rest => anyHasLeaf rest
  | some child :: rest => child.hasLeaf || anyHasLeaf rest

end

section

variable (store : Store) (v : Valuation) (resolver : Resolver)

mutual

/-- The truth of a filter. Children without a leaf have no part in it. -/
def truth : Restriction → Truth
  | .simple path operator values =>
    let p := resolver.resolve path
    operator.truth store (v.valueOf p.owner p.field) values
  | .and children => .all (childTruths children)
  | .or children => .any (childTruths children)
  | .not child => child.truth.not
  | .arbitrary text => v.truthOf text

def childTruths : List (Option Restriction) → List Truth
  | [] => []
  | none :: rest => childTruths rest
  | some child :: rest =>
    if child.hasLeaf then child.truth :: childTruths rest else childTruths rest

end

end

end Restriction

end ObjectQuery
