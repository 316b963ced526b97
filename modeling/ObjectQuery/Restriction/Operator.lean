/-! Comparison operators of a simple restriction. -/

namespace ObjectQuery

inductive Operator where
  | equals
  | notEquals
  | greaterThan
  | greaterThanOrEqual
  | lessThan
  | lessThanOrEqual
  | like
  | startsWith
  | contains
  | in
  | notIn
  | between
  deriving Repr, DecidableEq

namespace Operator

def all : List Operator :=
  [.equals, .notEquals, .greaterThan, .greaterThanOrEqual, .lessThan, .lessThanOrEqual, .like,
    .startsWith, .contains, .in, .notIn, .between]

def name : Operator → String
  | .equals => "EQUALS"
  | .notEquals => "NOT_EQUALS"
  | .greaterThan => "GREATER_THAN"
  | .greaterThanOrEqual => "GREATER_THAN_OR_EQUAL"
  | .lessThan => "LESS_THAN"
  | .lessThanOrEqual => "LESS_THAN_OR_EQUAL"
  | .like => "LIKE"
  | .startsWith => "STARTS_WITH"
  | .contains => "CONTAINS"
  | .in => "IN"
  | .notIn => "NOT_IN"
  | .between => "BETWEEN"

def named? (name : String) : Option Operator :=
  all.find? (·.name == name)

end Operator

end ObjectQuery
