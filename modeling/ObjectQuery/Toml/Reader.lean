import ObjectQuery.Toml.Scalar

/-! The document of a TOML text. Every function returns what it has not read, and fails as soon as
the text is no TOML. -/

namespace ObjectQuery.Toml

def isTab (c : Char) : Bool :=
  c = ' ' || c = '\t'

def skipTabs (cs : List Char) : List Char :=
  cs.dropWhile isTab

/-- Control characters stand in no comment and in no string; the tab is none of them. -/
def isControl (c : Char) : Bool :=
  (c.toNat < 0x20 && c ≠ '\t') || c = '\x7f'

/-- What follows a comment, if there is one; the end of the line is left. -/
def skipComment : List Char → Option (List Char)
  | '#' :: rest =>
    let (comment, rest) := rest.span fun c => c ≠ '\n' && c ≠ '\r'
    if comment.any isControl then none else some rest
  | cs => some cs

def newline? : List Char → Option (List Char)
  | '\n' :: rest => some rest
  | '\r' :: '\n' :: rest => some rest
  | _ => none

/-- Skips blanks, comments and line ends. -/
def skipLines (fuel : Nat) (cs : List Char) : Option (List Char) :=
  match fuel with
  | 0 => some cs
  | fuel + 1 => do
    let cs ← skipComment (skipTabs cs)
    match newline? cs with
    | some rest => skipLines fuel rest
    | none => return cs

/-- The scalar value that the next `count` hexadecimal digits name. -/
def codePoint? (count : Nat) (cs : List Char) : Option (Char × List Char) := do
  let digits := cs.take count
  if digits.length ≠ count then none
  else
    let code := ofDigits 16 (← digits.mapM digitValue?)
    if code < 0xD800 ∨ (0xDFFF < code ∧ code < 0x110000) then
      return (Char.ofNat code, cs.drop count)
    else none

/-- The character that an escape stands for, behind its backslash. -/
def escape? : List Char → Option (Char × List Char)
  | 'b' :: rest => some ('\x08', rest)
  | 't' :: rest => some ('\t', rest)
  | 'n' :: rest => some ('\n', rest)
  | 'f' :: rest => some ('\x0c', rest)
  | 'r' :: rest => some ('\r', rest)
  | '"' :: rest => some ('"', rest)
  | '\\' :: rest => some ('\\', rest)
  | 'u' :: rest => codePoint? 4 rest
  | 'U' :: rest => codePoint? 8 rest
  | _ => none

/-- A string on one line, up to its closing quote. -/
def lineString? (quote : Char) (fuel : Nat) (cs : List Char) : Option (List Char × List Char) :=
  match fuel with
  | 0 => none
  | fuel + 1 =>
    match cs with
    | [] => none
    | c :: rest =>
      if c = quote then some ([], rest)
      else if c = '\\' ∧ quote = '"' then do
        let (char, rest) ← escape? rest
        let (content, rest) ← lineString? quote fuel rest
        return (char :: content, rest)
      else if isControl c then none
      else do
        let (content, rest) ← lineString? quote fuel rest
        return (c :: content, rest)

/-- A string over several lines. Up to two quotes may stand in front of the three that close it,
and a backslash at the end of a line takes the blanks up to the next text with it. -/
def textString? (quote : Char) (fuel : Nat) (cs : List Char) : Option (List Char × List Char) :=
  match fuel with
  | 0 => none
  | fuel + 1 =>
    match cs with
    | [] => none
    | c :: rest =>
      let quotes := cs.takeWhile (· = quote)
      if 3 ≤ quotes.length then
        let inner := min 2 (quotes.length - 3)
        some (quotes.take inner, cs.drop (inner + 3))
      else if c = '\\' ∧ quote = '"' then
        match newline? (skipTabs rest) with
        | some rest =>
          textString? quote fuel (rest.dropWhile fun c => isTab c || c = '\n' || c = '\r')
        | none => do
          let (char, rest) ← escape? rest
          let (content, rest) ← textString? quote fuel rest
          return (char :: content, rest)
      else
        match newline? cs with
        | some rest => do
          let (content, rest) ← textString? quote fuel rest
          return ('\n' :: content, rest)
        | none =>
          if isControl c then none
          else do
            let (content, rest) ← textString? quote fuel rest
            return (c :: content, rest)

/-- A string in quotes of either kind, behind its first quote. -/
def string? (quote : Char) (cs : List Char) : Option (List Char × List Char) :=
  match cs with
  | c :: d :: rest =>
    if c = quote ∧ d = quote then
      textString? quote (rest.length + 1) ((newline? rest).getD rest)
    else lineString? quote (cs.length + 1) cs
  | cs => lineString? quote (cs.length + 1) cs

def isBare (c : Char) : Bool :=
  c.isAlphanum || c = '_' || c = '-'

def key? (cs : List Char) : Option (String × List Char) := do
  match cs with
  | '"' :: rest =>
    let (key, rest) ← lineString? '"' (rest.length + 1) rest
    return (String.ofList key, rest)
  | '\'' :: rest =>
    let (key, rest) ← lineString? '\'' (rest.length + 1) rest
    return (String.ofList key, rest)
  | cs =>
    let (key, rest) := cs.span isBare
    if key.isEmpty then none else return (String.ofList key, rest)

/-- Keys with dots between them: those before the last one, and the last one. -/
def dottedKey? (fuel : Nat) (cs : List Char) : Option (List String × String × List Char) :=
  match fuel with
  | 0 => none
  | fuel + 1 => do
    let (key, rest) ← key? (skipTabs cs)
    match skipTabs rest with
    | '.' :: rest =>
      let (path, last, rest) ← dottedKey? fuel rest
      return (key :: path, last, rest)
    | rest => return ([], key, rest)

def isScalarChar (c : Char) : Bool :=
  isBare c || c = '+' || c = '.' || c = ':'

/-- An unquoted value. A blank goes on where a date is followed by a time. -/
def scalarAt? (cs : List Char) : Option (Toml × List Char) := do
  let (token, rest) := cs.span isScalarChar
  match date? token, rest with
  | some [], ' ' :: c :: more =>
    if c.isDigit then
      let (time, rest) := (c :: more).span isScalarChar
      return (← scalar? (token ++ ' ' :: time), rest)
    else return (← scalar? token, rest)
  | _, _ => return (← scalar? token, rest)

/-- How deep arrays and inline tables may be nested. -/
def maxDepth : Nat := 80

mutual

/-- `fuel` bounds the characters read; the length of the text is enough. -/
def valueAt? (fuel depth : Nat) (cs : List Char) : Option (Toml × List Char) :=
  match fuel with
  | 0 => none
  | fuel + 1 =>
    match cs with
    | '"' :: rest => do
      let (content, rest) ← string? '"' rest
      return (.string (String.ofList content), rest)
    | '\'' :: rest => do
      let (content, rest) ← string? '\'' rest
      return (.string (String.ofList content), rest)
    | '[' :: rest =>
      if depth = 0 then none
      else do
        let (items, rest) ← itemsAt? fuel (depth - 1) rest
        return (.array items, rest)
    | '{' :: rest =>
      if depth = 0 then none
      else
        match skipTabs rest with
        | '}' :: rest => some (.table [], rest)
        | rest => do
          let (entries, rest) ← entriesAt? fuel (depth - 1) [] rest
          return (.table (entryValues entries), rest)
    | cs => scalarAt? cs

/-- The elements of an array up to its bracket; a comma may follow the last one. -/
def itemsAt? (fuel depth : Nat) (cs : List Char) : Option (List Toml × List Char) :=
  match fuel with
  | 0 => none
  | fuel + 1 => do
    match ← skipLines cs.length cs with
    | ']' :: rest => return ([], rest)
    | cs =>
      let (item, rest) ← valueAt? fuel depth cs
      match ← skipLines rest.length rest with
      | ',' :: rest =>
        let (items, rest) ← itemsAt? fuel depth rest
        return (item :: items, rest)
      | ']' :: rest => return ([item], rest)
      | _ => none

/-- The entries of an inline table up to its brace. -/
def entriesAt? (fuel depth : Nat) (entries : Entries) (cs : List Char) :
    Option (Entries × List Char) :=
  match fuel with
  | 0 => none
  | fuel + 1 => do
    let (path, key, rest) ← dottedKey? (cs.length + 1) cs
    let rest ← literal? '=' rest
    let (value, rest) ← valueAt? fuel depth (skipTabs rest)
    let entries ← entries.put key value path
    match skipTabs rest with
    | ',' :: rest => entriesAt? fuel depth entries rest
    | '}' :: rest => return (entries, rest)
    | _ => none

end

/-- Nothing but a comment stands behind an entry or a header in its line. -/
def lineEnd? (cs : List Char) : Option (List Char) := do
  let cs ← skipComment (skipTabs cs)
  if cs.isEmpty then return [] else newline? cs

/-- Reads line by line. `location` is the path of the table whose header came last. -/
def documentAt? (fuel : Nat) (location : List String) (entries : Entries) (cs : List Char) :
    Option Entries :=
  match fuel with
  | 0 => none
  | fuel + 1 => do
    match ← skipLines cs.length cs with
    | [] => return entries
    | '[' :: '[' :: rest =>
      let (path, key, rest) ← dottedKey? (rest.length + 1) rest
      let rest ← lineEnd? (← literal? ']' (← literal? ']' rest))
      documentAt? fuel (path ++ [key]) (← entries.openElement path key) rest
    | '[' :: rest =>
      let (path, key, rest) ← dottedKey? (rest.length + 1) rest
      let rest ← lineEnd? (← literal? ']' rest)
      documentAt? fuel (path ++ [key]) (← entries.openTable path key) rest
    | cs =>
      let (path, key, rest) ← dottedKey? (cs.length + 1) cs
      let rest ← literal? '=' rest
      let (value, rest) ← valueAt? (2 * rest.length + 2) maxDepth (skipTabs rest)
      let rest ← lineEnd? rest
      documentAt? fuel location (← entries.within (Entries.put key value path) location) rest

/-- The root table of a text, which may start with a byte order mark. -/
def ofText? (text : String) : Option (List (String × Toml)) :=
  let cs :=
    match text.toList with
    | '\uFEFF' :: rest => rest
    | cs => cs
  (documentAt? (cs.length + 1) [] [] cs).map entryValues

end ObjectQuery.Toml
