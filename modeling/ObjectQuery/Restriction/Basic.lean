import ObjectQuery.Restriction.Operator
import ObjectQuery.Value

/-! The filter tree of a query. -/

namespace ObjectQuery

/-- A child that is `none` is a placeholder and filters nothing. An arbitrary restriction is
predicate text that is passed on as it is. -/
inductive Restriction where
  | simple (path : String) (operator : Operator) (values : List Value)
  | and (children : List (Option Restriction))
  | or (children : List (Option Restriction))
  | not (child : Restriction)
  | arbitrary (text : String)
  deriving Repr, BEq, Inhabited

namespace Restriction

def eq (path : String) (value : Value) : Restriction :=
  .simple path .equals [value]

def isIn (path : String) (values : List Value) : Restriction :=
  .simple path .in values

def allOf (children : List Restriction) : Restriction :=
  .and (children.map some)

def anyOf (children : List Restriction) : Restriction :=
  .or (children.map some)

mutual

/-- Attribute paths of the simple restrictions, depth first and from left to right. -/
def paths : Restriction → List String
  | .simple path _ _ => [path]
  | .and children => childPaths children
  | .or children => childPaths children
  | .not child => child.paths
  | .arbitrary _ => []

def childPaths : List (Option Restriction) → List String
  | [] => []
  | none :: rest => childPaths rest
  | some child :: rest => child.paths ++ childPaths rest

end

end Restriction

end ObjectQuery
