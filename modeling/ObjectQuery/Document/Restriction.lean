import ObjectQuery.Document.Value
import ObjectQuery.Restriction.Basic

/-! Restrictions in JSON: an object whose field `type` says which kind it is, or an array that
starts with the type. The whole text of a restriction is read before its fields are looked at. -/

namespace ObjectQuery

namespace Operator

def toJson (operator : Operator) : Json :=
  .string operator.name

def ofName (name : String) : Except DocumentError Operator :=
  match named? name with
  | some operator => .ok operator
  | none => .error (.unknownVariant name (all.map Operator.name))

/-- A name, or an object that has the name as its only field with nothing in it. -/
def ofJson : Json → Except DocumentError Operator
  | .string name => ofName name
  | .object [(name, content)] => do
    let operator ← ofName name
    match content with
    | .null | .object [] => return operator
    | _ => throw .invalidType
  | .object _ => .error .invalidValue
  | _ => .error .invalidType

end Operator

/-- An operator that is the whole text. The object form ends with its first field. -/
def Document.operator : Decoder Operator
  | _, .string (some name) => Operator.ofName name
  | depth, .object entries closed =>
    enter depth fun depth =>
      match entries with
      | [] => .error .malformed
      | (key, content) :: rest => do
        let operator ← Operator.ofName (← string depth key)
        match content with
        | .null => closing (rest.isEmpty && closed)
        | o => throw (mismatch o)
        return operator
  | _, _ => .error .malformed

namespace Restriction

inductive Kind where
  | simple
  | and
  | or
  | not
  | arbitrary
  deriving Repr, DecidableEq

namespace Kind

def all : List Kind :=
  [.simple, .and, .or, .not, .arbitrary]

def name : Kind → String
  | .simple => "simple"
  | .and => "and"
  | .or => "or"
  | .not => "not"
  | .arbitrary => "arbitrary"

def ofName (name : String) : Except DocumentError Kind :=
  match all.find? (·.name == name) with
  | some kind => .ok kind
  | none => .error (.unknownVariant name (all.map Kind.name))

/-- A restriction inside another one may name its kind by the position in the list of all kinds. -/
def ofJson : Json → Except DocumentError Kind
  | .string name => ofName name
  | .number (.int n) =>
    if n < 0 then .error .invalidType
    else
      match all[n.toNat]? with
      | some kind => .ok kind
      | none => .error .invalidValue
  | _ => .error .invalidType

def fields : Kind → List String
  | .simple => ["attribute_path", "operator", "values"]
  | .and | .or => ["children"]
  | .not => ["child"]
  | .arbitrary => ["text"]

end Kind

mutual

def toJson : Restriction → Json
  | .simple path operator values =>
    .object [("type", .string "simple"), ("attribute_path", .string path),
      ("operator", operator.toJson), ("values", .array (values.map Value.toJson))]
  | .and children =>
    .object [("type", .string "and"), ("children", .array (childrenToJson children))]
  | .or children =>
    .object [("type", .string "or"), ("children", .array (childrenToJson children))]
  | .not child => .object [("type", .string "not"), ("child", child.toJson)]
  | .arbitrary text => .object [("type", .string "arbitrary"), ("text", .string text)]

def childrenToJson : List (Option Restriction) → List Json
  | [] => []
  | none :: rest => .null :: childrenToJson rest
  | some child :: rest => child.toJson :: childrenToJson rest

end

/-- The fields of a restriction found so far, whatever its kind. -/
structure Parts where
  path : Option String := none
  operator : Option Operator := none
  values : Option (List Value) := none
  children : Option (List (Option Restriction)) := none
  child : Option Restriction := none
  text : Option String := none

open Document.RecordDecoder (once required)

/-- The values may be missing, the other fields of a kind may not. -/
def Parts.finish (fault : String → DocumentError) (kind : Kind) (p : Parts) :
    Except DocumentError Restriction :=
  match kind with
  | .simple => do
    let path ← required fault "attribute_path" p.path
    let operator ← required fault "operator" p.operator
    return .simple path operator (p.values.getD [])
  | .and => do return .and (← required fault "children" p.children)
  | .or => do return .or (← required fault "children" p.children)
  | .not => do return .not (← required fault "child" p.child)
  | .arbitrary => do return .arbitrary (← required fault "text" p.text)

/-- The kind named by the only field `type`. -/
def kindOf (found : Option Kind) : List (String × Json) → Except DocumentError Kind
  | [] =>
    match found with
    | some kind => .ok kind
    | none => .error (.missingField "type")
  | (name, value) :: rest =>
    if name = "type" then
      if found.isSome then .error (.duplicateField "type")
      else do kindOf (some (← Kind.ofJson value)) rest
    else kindOf found rest

def stringOf : Json → Except DocumentError String
  | .string s => .ok s
  | _ => .error .invalidType

def valuesOf : Json → Except DocumentError (List Value)
  | .array items => items.mapM Value.ofJson
  | _ => .error .invalidType

/-- Adds a field. What the value is as a restriction, and as a list of children, is asked for only
where the field calls for it. -/
def Parts.add (p : Parts) (name : String) (value : Json)
    (child : Unit → Except DocumentError Restriction)
    (children : Unit → Except DocumentError (List (Option Restriction))) :
    Except DocumentError Parts :=
  match name with
  | "attribute_path" => do return { p with path := ← once name p.path (stringOf value) }
  | "operator" => do return { p with operator := ← once name p.operator (Operator.ofJson value) }
  | "values" => do return { p with values := ← once name p.values (valuesOf value) }
  | "children" => do return { p with children := ← once name p.children (children ()) }
  | "child" => do return { p with child := ← once name p.child (child ()) }
  | "text" => do return { p with text := ← once name p.text (stringOf value) }
  | _ => .ok p

mutual

def ofJson : Json → Except DocumentError Restriction
  | .object fields => do
    let kind ← kindOf none fields
    ofFields kind {} fields
  | .array (tag :: items) => do
    let kind ← Kind.ofJson tag
    ofItems kind {} kind.fields items
  | .array [] => .error (.missingField "type")
  | _ => .error .invalidType

def ofFields (kind : Kind) (parts : Parts) :
    List (String × Json) → Except DocumentError Restriction
  | [] => parts.finish .missingField kind
  | (name, value) :: rest => do
    if kind.fields.contains name then
      let parts ← parts.add name value (fun _ => ofJson value) (fun _ => childrenOf value)
      ofFields kind parts rest
    else ofFields kind parts rest

/-- Elements stand for the fields of the kind in order. -/
def ofItems (kind : Kind) (parts : Parts) (names : List String) :
    List Json → Except DocumentError Restriction
  | [] => parts.finish (fun _ => .invalidLength) kind
  | item :: rest =>
    match names with
    | [] => .error .invalidLength
    | name :: names => do
      let parts ← parts.add name item (fun _ => ofJson item) (fun _ => childrenOf item)
      ofItems kind parts names rest

def childrenOf : Json → Except DocumentError (List (Option Restriction))
  | .array items => childList items
  | _ => .error .invalidType

def childList : List Json → Except DocumentError (List (Option Restriction))
  | [] => .ok []
  | .null :: rest => do return none :: (← childList rest)
  | item :: rest => do
    let child ← ofJson item
    return some child :: (← childList rest)

end

end Restriction

namespace Document

open Json (Outline)

/-- The fields of a restriction, read up to the end; its type is checked on the way. -/
def taggedFields (depth : Nat) (closed : Bool) (found : Option Restriction.Kind) :
    List (Outline × Outline) → Except DocumentError (List (String × Json))
  | [] => do
    closing closed
    if found.isNone then throw (.missingField "type")
    return []
  | (key, value) :: rest => do
    let name ←
      match key with
      | .string (some s) => pure s
      | _ => throw .malformed
    if name = "type" then
      if found.isSome then throw (.duplicateField "type")
      let tag ← string depth value
      let kind ← Restriction.Kind.ofName tag
      return (name, .string tag) :: (← taggedFields depth closed (some kind) rest)
    else
      let value ← json depth value
      return (name, value) :: (← taggedFields depth closed found rest)

def restriction : Decoder Restriction
  | depth, .object entries closed =>
    enter depth fun depth => do
      let fields ← taggedFields depth closed none entries
      Restriction.ofJson (.object fields)
  | depth, .array items closed =>
    enter depth fun depth =>
      match items with
      | [] => do
        closing closed
        throw (.missingField "type")
      | tag :: items => do
        let tag ← string depth tag
        discard (Restriction.Kind.ofName tag)
        let items ← jsonItems depth items
        closing closed
        Restriction.ofJson (.array (.string tag :: items))
  | _, o => .error (mismatch o)

end Document

end ObjectQuery
