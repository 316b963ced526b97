/-! JSON values. An object keeps its fields in order and may repeat a name. -/

namespace ObjectQuery

/-- A number written without fraction and exponent is an integer as long as it fits 64 bits. -/
inductive Json.Number where
  | int (n : Int)
  | float (x : Float)
  deriving Repr, BEq

inductive Json where
  | null
  | bool (b : Bool)
  | number (n : Json.Number)
  | string (s : String)
  | array (items : List Json)
  | object (fields : List (String × Json))
  deriving Repr, BEq, Inhabited

namespace Json

def int (n : Int) : Json :=
  .number (.int n)

def float (x : Float) : Json :=
  .number (.float x)

mutual

/-- How many arrays and objects are open at the deepest point. -/
def depth : Json → Nat
  | .array items => depthItems items + 1
  | .object fields => depthFields fields + 1
  | _ => 0

def depthItems : List Json → Nat
  | [] => 0
  | item :: rest => max item.depth (depthItems rest)

def depthFields : List (String × Json) → Nat
  | [] => 0
  | (_, value) :: rest => max value.depth (depthFields rest)

end

end Json

end ObjectQuery
