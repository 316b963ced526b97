import ObjectQuery.Document.Decode
import ObjectQuery.Value

/-! Values and arguments in JSON. -/

namespace ObjectQuery

def Value.toJson : Value → Json
  | .null => .null
  | .bool b => .bool b
  | .int n => .int n.toInt
  | .float x => if x.isFinite then .float x else .null
  | .string s => .string s

/-- An integer beyond the signed 64-bit range is the nearest float. -/
def Value.ofJson : Json → Except DocumentError Value
  | .null => .ok .null
  | .bool b => .ok (.bool b)
  | .number (.int n) =>
    .ok (if Int64.minValue.toInt ≤ n ∧ n ≤ Int64.maxValue.toInt then .int (Int64.ofInt n)
      else .float (UInt64.ofNat n.toNat).toFloat)
  | .number (.float x) => .ok (.float x)
  | .string s => .ok (.string s)
  | .array _ | .object _ => .error (.noVariant "Value")

def Argument.toJson : Argument → Json
  | .scalar v => v.toJson
  | .list vs => .array (vs.map Value.toJson)

/-- An array is a list. -/
def Argument.ofJson : Json → Except DocumentError Argument
  | .array items =>
    match items.mapM Value.ofJson with
    | .ok vs => .ok (.list vs)
    | .error _ => .error (.noVariant "ParamValue")
  | json =>
    match Value.ofJson json with
    | .ok v => .ok (.scalar v)
    | .error _ => .error (.noVariant "ParamValue")

namespace Document

def value : Decoder Value
  | depth, o => json depth o >>= Value.ofJson

def argument : Decoder Argument
  | depth, o => json depth o >>= Argument.ofJson

def values : Decoder (List Value) :=
  list value

end Document

end ObjectQuery
