import ObjectQuery.Json.Outline

/-! The outline of a text. Every function returns what it did not consume, which is nothing once
the text is broken. -/

namespace ObjectQuery.Json

def isSpace (c : Char) : Bool :=
  c = ' ' || c = '\n' || c = '\t' || c = '\r'

def skipSpace (cs : List Char) : List Char :=
  cs.dropWhile isSpace

def hexDigit? (c : Char) : Option Nat :=
  if '0' ≤ c ∧ c ≤ '9' then some (c.toNat - '0'.toNat)
  else if 'a' ≤ c ∧ c ≤ 'f' then some (c.toNat - 'a'.toNat + 10)
  else if 'A' ≤ c ∧ c ≤ 'F' then some (c.toNat - 'A'.toNat + 10)
  else none

def unit? (a b c d : Char) : Option Nat := do
  return ((← hexDigit? a) * 16 + (← hexDigit? b)) * 256 + (← hexDigit? c) * 16 + (← hexDigit? d)

def isHighSurrogate (code : Nat) : Bool :=
  0xD800 ≤ code && code < 0xDC00

def isLowSurrogate (code : Nat) : Bool :=
  0xDC00 ≤ code && code < 0xE000

/-- The character of the low surrogate escape at the start of the text, after a high one. -/
def pairedWith? (high : Nat) : List Char → Option Char
  | '\\' :: 'u' :: a :: b :: c :: d :: _ => do
    let low ← unit? a b c d
    if isLowSurrogate low then
      return Char.ofNat (0x10000 + (high - 0xD800) * 0x400 + (low - 0xDC00))
    else none
  | _ => none

def escaped? : Char → Option Char
  | '"' => some '"'
  | '\\' => some '\\'
  | '/' => some '/'
  | 'b' => some '\x08'
  | 'f' => some '\x0c'
  | 'n' => some '\n'
  | 'r' => some '\r'
  | 't' => some '\t'
  | _ => none

/-- Reads up to the closing quote. The content is `none` after an unpaired surrogate, the whole
result when the string is malformed or has no end. -/
def stringAt? : List Char → Option (Option (List Char) × List Char)
  | [] => none
  | '"' :: rest => some (some [], rest)
  | '\\' :: 'u' :: a :: b :: c :: d :: rest =>
    match unit? a b c d with
    | none => none
    | some code =>
      if isHighSurrogate code then
        match pairedWith? code rest with
        | some char =>
          (stringAt? (rest.drop 6)).map fun (content, rest) => (content.map (char :: ·), rest)
        | none => (stringAt? rest).map fun (_, rest) => (none, rest)
      else if isLowSurrogate code then (stringAt? rest).map fun (_, rest) => (none, rest)
      else
        (stringAt? rest).map fun (content, rest) => (content.map (Char.ofNat code :: ·), rest)
  | '\\' :: c :: rest =>
    match escaped? c with
    | some char =>
      (stringAt? rest).map fun (content, rest) => (content.map (char :: ·), rest)
    | none => none
  | c :: rest =>
    if c.toNat < 0x20 ∨ c = '\\' then none
    else (stringAt? rest).map fun (content, rest) => (content.map (c :: ·), rest)
termination_by cs => cs.length
decreasing_by all_goals simp [List.length_drop]; try omega

namespace Outline

def numberAt (cs : List Char) : Outline × List Char :=
  match Number.Literal.at? cs with
  | some (literal, rest) => (.number literal.number?, rest)
  | none => (.broken, [])

mutual

/-- `fuel` bounds the characters read; the length of the text is enough. -/
def valueAt (fuel : Nat) (cs : List Char) : Outline × List Char :=
  match fuel with
  | 0 => (.broken, [])
  | fuel + 1 =>
    match skipSpace cs with
    | 'n' :: 'u' :: 'l' :: 'l' :: rest => (.null, rest)
    | 't' :: 'r' :: 'u' :: 'e' :: rest => (.bool true, rest)
    | 'f' :: 'a' :: 'l' :: 's' :: 'e' :: rest => (.bool false, rest)
    | '"' :: rest =>
      match stringAt? rest with
      | some (content, rest) => (.string (content.map String.ofList), rest)
      | none => (.broken, [])
    | '[' :: rest =>
      match skipSpace rest with
      | ']' :: rest => (.array [] true, rest)
      | rest =>
        let (items, closed, rest) := itemsAt fuel rest
        (.array items closed, rest)
    | '{' :: rest =>
      match skipSpace rest with
      | '}' :: rest => (.object [] true, rest)
      | rest =>
        let (entries, closed, rest) := entriesAt fuel rest
        (.object entries closed, rest)
    | c :: rest => if c = '-' ∨ c.isDigit then numberAt (c :: rest) else (.broken, [])
    | [] => (.broken, [])

/-- One element or more, up to the closing bracket. -/
def itemsAt (fuel : Nat) (cs : List Char) : List Outline × Bool × List Char :=
  match fuel with
  | 0 => ([], false, [])
  | fuel + 1 =>
    let (item, rest) := valueAt fuel cs
    match skipSpace rest with
    | ']' :: rest => ([item], true, rest)
    | ',' :: rest =>
      if (skipSpace rest).head? = some ']' then ([item], false, [])
      else
        let (items, closed, rest) := itemsAt fuel rest
        (item :: items, closed, rest)
    | _ => ([item], false, [])

/-- One entry or more, up to the closing brace. -/
def entriesAt (fuel : Nat) (cs : List Char) : List (Outline × Outline) × Bool × List Char :=
  match fuel with
  | 0 => ([], false, [])
  | fuel + 1 =>
    let (key, rest) := valueAt fuel cs
    match key, skipSpace rest with
    | .string name, ':' :: rest =>
      let (value, rest) := valueAt fuel rest
      match skipSpace rest with
      | '}' :: rest => ([(.string name, value)], true, rest)
      | ',' :: rest =>
        if (skipSpace rest).head? = some '}' then ([(.string name, value)], false, [])
        else
          let (entries, closed, rest) := entriesAt fuel rest
          ((.string name, value) :: entries, closed, rest)
      | _ => ([(.string name, value)], false, [])
    | key, _ => ([(key, .broken)], false, [])

end

/-- The outline of the text and whether nothing but space follows it. -/
def ofText (s : String) : Outline × Bool :=
  let (outline, rest) := valueAt (2 * s.length + 2) s.toList
  (outline, (skipSpace rest).isEmpty)

end Outline

end ObjectQuery.Json
