import ObjectQuery.Json.Number

/-! What a text yields when it is read as JSON from left to right, up to the first place where it
is none. Readers that stop at the first fault in document order work on outlines. -/

namespace ObjectQuery.Json

/-- A number too large for a double and a string with an unpaired surrogate escape have no content.
A container that is not closed is cut after its last element, and an entry whose key is no string,
or is followed by no colon, is cut at that point. -/
inductive Outline where
  | null
  | bool (b : Bool)
  | number (n : Option Number)
  | string (s : Option String)
  | array (items : List Outline) (closed : Bool)
  | object (entries : List (Outline × Outline)) (closed : Bool)
  | broken
  deriving Inhabited

namespace Outline

mutual

/-- Whether nothing is broken or cut anywhere inside. -/
def intact : Outline → Bool
  | .array items closed => intactItems items && closed
  | .object entries closed => intactEntries entries && closed
  | .broken => false
  | _ => true

def intactItems : List Outline → Bool
  | [] => true
  | item :: rest => item.intact && intactItems rest

def intactEntries : List (Outline × Outline) → Bool
  | [] => true
  | (key, value) :: rest => key.intact && value.intact && intactEntries rest

end

mutual

/-- The outline of a complete text. -/
def ofJson : Json → Outline
  | .null => .null
  | .bool b => .bool b
  | .number n => .number (some n)
  | .string s => .string (some s)
  | .array items => .array (ofItems items) true
  | .object fields => .object (ofFields fields) true

def ofItems : List Json → List Outline
  | [] => []
  | item :: rest => ofJson item :: ofItems rest

def ofFields : List (String × Json) → List (Outline × Outline)
  | [] => []
  | (name, value) :: rest => (.string (some name), ofJson value) :: ofFields rest

end

end Outline

end ObjectQuery.Json
