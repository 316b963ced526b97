import ObjectQuery.Json.Number

/-! JSON text, either without any blank or indented by two spaces a level. -/

namespace ObjectQuery.Json

def escapeChar (c : Char) : List Char :=
  match c with
  | '"' => ['\\', '"']
  | '\\' => ['\\', '\\']
  | '\x08' => ['\\', 'b']
  | '\x0c' => ['\\', 'f']
  | '\n' => ['\\', 'n']
  | '\r' => ['\\', 'r']
  | '\t' => ['\\', 't']
  | c =>
    if c.toNat < 0x20 then
      ['\\', 'u', '0', '0', Nat.digitChar (c.toNat / 16), Nat.digitChar (c.toNat % 16)]
    else [c]

/-- Only the quote, the backslash and the control characters below the space are escaped. -/
def quote (s : String) : String :=
  "\"" ++ String.ofList (s.toList.flatMap escapeChar) ++ "\""

mutual

def compact : Json → String
  | .null => "null"
  | .bool b => toString b
  | .number n => n.text
  | .string s => quote s
  | .array items => "[" ++ ",".intercalate (compactItems items) ++ "]"
  | .object fields => "\x7b" ++ ",".intercalate (compactFields fields) ++ "\x7d"

def compactItems : List Json → List String
  | [] => []
  | item :: rest => item.compact :: compactItems rest

def compactFields : List (String × Json) → List String
  | [] => []
  | (name, value) :: rest => (quote name ++ ":" ++ value.compact) :: compactFields rest

end

private def indented (level : Nat) (opening closing : String) (items : List String) : String :=
  let line (n : Nat) := "\n" ++ String.ofList (List.replicate (2 * n) ' ')
  if items.isEmpty then opening ++ closing
  else
    opening ++ line (level + 1) ++ ("," ++ line (level + 1)).intercalate items ++
      line level ++ closing

mutual

def prettyAt (level : Nat) : Json → String
  | .array items => indented level "[" "]" (prettyItems (level + 1) items)
  | .object fields => indented level "\x7b" "\x7d" (prettyFields (level + 1) fields)
  | .null => "null"
  | .bool b => toString b
  | .number n => n.text
  | .string s => quote s

def prettyItems (level : Nat) : List Json → List String
  | [] => []
  | item :: rest => item.prettyAt level :: prettyItems level rest

def prettyFields (level : Nat) : List (String × Json) → List String
  | [] => []
  | (name, value) :: rest =>
    (quote name ++ ": " ++ value.prettyAt level) :: prettyFields level rest

end

/-- One element a line; empty containers stay on theirs. -/
def pretty (json : Json) : String :=
  json.prettyAt 0

end ObjectQuery.Json
