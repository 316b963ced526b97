import ObjectQuery.Decimal.Notation

/-! Values that attributes are compared with, and the arguments that bind them to a statement. -/

namespace ObjectQuery

inductive Value where
  | null
  | bool (b : Bool)
  | int (n : Int64)
  | float (x : Float)
  | string (s : String)
  deriving Repr, BEq, Inhabited

namespace Value

def isNull : Value → Bool
  | .null => true
  | _ => false

/-- Always positional, and without a fraction where there is none. -/
def floatText (x : Float) : String :=
  if x.isNaN then "NaN"
  else if x.isInf then if x < 0 then "-inf" else "inf"
  else (Decimal.ofFloat .up x).positional 0

/-- Strings stand in single quotes with nothing escaped. -/
def text : Value → String
  | .null => "null"
  | .bool b => toString b
  | .int n => toString n.toInt
  | .float x => floatText x
  | .string s => "'" ++ s ++ "'"

end Value

/-- What a named parameter stands for: one value, or the list of an `IN`. -/
inductive Argument where
  | scalar (v : Value)
  | list (vs : List Value)
  deriving Repr, BEq, Inhabited

namespace Argument

def isList : Argument → Bool
  | .scalar _ => false
  | .list _ => true

def text : Argument → String
  | .scalar v => v.text
  | .list vs => "[" ++ ", ".intercalate (vs.map Value.text) ++ "]"

end Argument

end ObjectQuery
