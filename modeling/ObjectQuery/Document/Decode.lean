import ObjectQuery.Document.Error
import ObjectQuery.Json.Reader

/-! Decoding of outlines. A decoder takes the number of containers that may still be opened and
fails at the first fault in document order. -/

namespace ObjectQuery

open Json (Outline)

abbrev Decoder (α : Type) : Type :=
  Nat → Outline → Except DocumentError α

namespace Document

/-- How deep containers may be nested. -/
def maxDepth : Nat := 127

/-- The fault of a value that is no scalar of the expected type. -/
def mismatch : Outline → DocumentError
  | .broken | .number none | .string none => .malformed
  | _ => .invalidType

/-- One container is opened. -/
def enter {α : Type} (depth : Nat) (inside : Nat → Except DocumentError α) :
    Except DocumentError α :=
  match depth with
  | 0 => .error .malformed
  | depth + 1 => inside depth

def string : Decoder String
  | _, .string (some s) => .ok s
  | _, o => .error (mismatch o)

def bool : Decoder Bool
  | _, .bool b => .ok b
  | _, o => .error (mismatch o)

/-- An unsigned integer. A negative one is a number of the right type. -/
def index : Decoder Nat
  | _, .number (some (.int n)) => if 0 ≤ n then .ok n.toNat else .error .invalidValue
  | _, o => .error (mismatch o)

def optional {α : Type} (decode : Decoder α) : Decoder (Option α)
  | _, .null => .ok none
  | depth, o => (decode depth o).map some

/-- What is left to read must be the end. -/
def closing (closed : Bool) : Except DocumentError Unit :=
  if closed then .ok () else .error .malformed

def list {α : Type} (decode : Decoder α) : Decoder (List α)
  | depth, .array items closed =>
    enter depth fun depth => do
      let xs ← items.mapM (decode depth)
      closing closed
      return xs
  | _, o => .error (mismatch o)

mutual

/-- The JSON value of an outline that has no fault and is not nested too deep. -/
def json (depth : Nat) : Outline → Except DocumentError Json
  | .null => .ok .null
  | .bool b => .ok (.bool b)
  | .number (some n) => .ok (.number n)
  | .string (some s) => .ok (.string s)
  | .array items closed =>
    match depth with
    | 0 => .error .malformed
    | depth + 1 => do
      let items ← jsonItems depth items
      closing closed
      return .array items
  | .object entries closed =>
    match depth with
    | 0 => .error .malformed
    | depth + 1 => do
      let fields ← jsonFields depth entries
      closing closed
      return .object fields
  | .number none | .string none | .broken => .error .malformed

def jsonItems (depth : Nat) : List Outline → Except DocumentError (List Json)
  | [] => .ok []
  | item :: rest => do
    let item ← json depth item
    return item :: (← jsonItems depth rest)

def jsonFields (depth : Nat) : List (Outline × Outline) →
    Except DocumentError (List (String × Json))
  | [] => .ok []
  | (key, value) :: rest => do
    let name ←
      match key with
      | .string (some s) => Except.ok s
      | _ => Except.error .malformed
    let value ← json depth value
    return (name, value) :: (← jsonFields depth rest)

end

/-- A value of a field that is not known. It may be anything that is not broken. -/
def ignored (o : Outline) : Except DocumentError Unit :=
  closing o.intact

/-- A record under construction: fields are taken one at a time, by name or in their own order. -/
structure RecordDecoder (σ : Type) where
  names : List String
  step : Nat → String → Outline → σ → Except DocumentError σ

namespace RecordDecoder

/-- The value of a field that may occur once. -/
def once {α : Type} (name : String) (slot : Option α) (value : Except DocumentError α) :
    Except DocumentError (Option α) :=
  if slot.isSome then .error (.duplicateField name) else value.map some

def entries {σ : Type} (r : RecordDecoder σ) (depth : Nat) (closed : Bool) :
    σ → List (Outline × Outline) → Except DocumentError σ
  | state, [] => do
    closing closed
    return state
  | state, (.string (some name), value) :: rest => do
    if r.names.contains name then
      r.entries depth closed (← r.step depth name value state) rest
    else
      ignored value
      r.entries depth closed state rest
  | _, _ :: _ => .error .malformed

/-- Takes elements as the fields of the given names; the elements left over are the second part. -/
def items {σ : Type} (r : RecordDecoder σ) (depth : Nat) :
    σ → List String → List Outline → Except DocumentError (σ × List Outline)
  | state, name :: names, item :: rest => do
    r.items depth (← r.step depth name item state) names rest
  | state, _, rest => .ok (state, rest)

/-- An object, or an array of the fields in order whose last ones may be missing. `finish` makes
the record out of its fields; it takes the error for a field that has none. -/
def decode {σ α : Type} (r : RecordDecoder σ) (start : σ)
    (finish : (String → DocumentError) → σ → Except DocumentError α) : Decoder α
  | depth, .object entries closed =>
    enter depth fun depth => do
      finish .missingField (← r.entries depth closed start entries)
  | depth, .array items closed =>
    enter depth fun depth => do
      let (state, rest) ← r.items depth start r.names items
      if rest.isEmpty && items.length < r.names.length then closing closed
      let record ← finish (fun _ => .invalidLength) state
      closing (rest.isEmpty && closed)
      return record
  | _, o => .error (mismatch o)

def required {α : Type} (fault : String → DocumentError) (name : String) :
    Option α → Except DocumentError α
  | some value => .ok value
  | none => .error (fault name)

end RecordDecoder

/-- Decodes a text with nothing but space around the value. -/
def ofText {α : Type} (decode : Decoder α) (text : String) : Except DocumentError α := do
  let (outline, ended) := Outline.ofText text
  let value ← decode maxDepth outline
  closing ended
  return value

end Document

end ObjectQuery
