import ObjectQuery.Text.Split
import ObjectQuery.Toml.Basic

/-! Values of TOML that stand without quotes: booleans, numbers, dates and times. -/

namespace ObjectQuery.Toml

def digitValue? (c : Char) : Option Nat :=
  if c.isDigit then some (c.toNat - '0'.toNat)
  else if 'a' ≤ c ∧ c ≤ 'f' then some (c.toNat - 'a'.toNat + 10)
  else if 'A' ≤ c ∧ c ≤ 'F' then some (c.toNat - 'A'.toNat + 10)
  else none

/-- The digits of a run in which each underscore stands between two of them. -/
def digits? (base : Nat) (cs : List Char) : Option (List Nat) := do
  let groups := Text.split '_' cs
  if groups.any List.isEmpty then none
  else
    let digits ← groups.flatten.mapM digitValue?
    if digits.all (· < base) then some digits else none

def ofDigits (base : Nat) (digits : List Nat) : Nat :=
  digits.foldl (fun n d => base * n + d) 0

/-- Decimal digits of a number, which has no zero in front. -/
def wholeDigits? (cs : List Char) : Option (List Nat) := do
  let digits ← digits? 10 cs
  if digits.head? = some 0 ∧ digits.length ≠ 1 then none else some digits

/-- A sign in front, if there is one. -/
def signed : List Char → Bool × List Char
  | '+' :: rest => (false, rest)
  | '-' :: rest => (true, rest)
  | cs => (false, cs)

def integer? (cs : List Char) : Option Toml :=
  match cs with
  | '0' :: 'x' :: rest => (digits? 16 rest).map fun ds => .integer (ofDigits 16 ds)
  | '0' :: 'o' :: rest => (digits? 8 rest).map fun ds => .integer (ofDigits 8 ds)
  | '0' :: 'b' :: rest => (digits? 2 rest).map fun ds => .integer (ofDigits 2 ds)
  | cs =>
    let (negative, body) := signed cs
    (wholeDigits? body).map fun ds =>
      .integer (if negative then -(ofDigits 10 ds) else ofDigits 10 ds)

/-- The double `m · 10 ^ e`. -/
def floatValue (m : Nat) (e : Int) : Option Float :=
  let size := (Nat.toDigits 10 m).length + e
  if m = 0 ∨ size < -400 then some 0
  else if 400 < size then none
  else
    let x := Float.ofScientific m (e < 0) e.natAbs
    if x.isInf then none else some x

def float? (cs : List Char) : Option Toml := do
  let (negative, body) := signed cs
  let sign (x : Float) := if negative then -x else x
  if body = ['i', 'n', 'f'] then return .float (some (sign (1 / 0)))
  else if body = ['n', 'a', 'n'] then return .float (some (0 / 0))
  else
    let isMark (c : Char) := c = 'e' || c = 'E'
    let mantissa := body.takeWhile (!isMark ·)
    let exponent ←
      match body.dropWhile (!isMark ·) with
      | [] => some 0
      | _ :: rest =>
        let (below, rest) := signed rest
        (digits? 10 rest).map fun ds =>
          if below then -(ofDigits 10 ds : Int) else ofDigits 10 ds
    match Text.split '.' mantissa with
    | [whole] =>
      if mantissa.length = body.length then none
      else return .float ((floatValue (ofDigits 10 (← wholeDigits? whole)) exponent).map sign)
    | [whole, fraction] =>
      let fraction ← digits? 10 fraction
      let m := ofDigits 10 ((← wholeDigits? whole) ++ fraction)
      return .float ((floatValue m (exponent - fraction.length)).map sign)
    | _ => none

/-- A number of exactly the given count of digits, within bounds. -/
def field? (count low high : Nat) (cs : List Char) : Option (Nat × List Char) :=
  let digits := cs.take count
  let n := ofDigits 10 (digits.map fun c => c.toNat - '0'.toNat)
  if digits.length = count ∧ digits.all Char.isDigit ∧ low ≤ n ∧ n ≤ high then
    some (n, cs.drop count)
  else none

def literal? (c : Char) : List Char → Option (List Char)
  | d :: rest => if c = d then some rest else none
  | [] => none

def isLeap (year : Nat) : Bool :=
  year % 4 = 0 && (year % 100 ≠ 0 || year % 400 = 0)

def daysIn (year month : Nat) : Nat :=
  if month = 2 then if isLeap year then 29 else 28
  else if [4, 6, 9, 11].contains month then 30
  else 31

def date? (cs : List Char) : Option (List Char) := do
  let (year, cs) ← field? 4 0 9999 cs
  let (month, cs) ← field? 2 1 12 (← literal? '-' cs)
  let (_, cs) ← field? 2 1 (daysIn year month) (← literal? '-' cs)
  return cs

/-- A minute may have a leap second. -/
def time? (cs : List Char) : Option (List Char) := do
  let (_, cs) ← field? 2 0 23 cs
  let (_, cs) ← field? 2 0 59 (← literal? ':' cs)
  let (_, cs) ← field? 2 0 60 (← literal? ':' cs)
  match cs with
  | '.' :: rest => if rest.head?.any Char.isDigit then return rest.dropWhile Char.isDigit else none
  | cs => return cs

def offset? (cs : List Char) : Option (List Char) := do
  match cs with
  | 'Z' :: rest | 'z' :: rest => return rest
  | sign :: rest =>
    if sign = '+' ∨ sign = '-' then
      let (_, cs) ← field? 2 0 23 rest
      let (_, cs) ← field? 2 0 59 (← literal? ':' cs)
      return cs
    else none
  | [] => return []

/-- A date, a time, or both with a `T` or a blank between them and perhaps an offset. -/
def isDatetime (cs : List Char) : Bool :=
  match date? cs with
  | some [] => true
  | some (c :: rest) =>
    (c = 'T' || c = 't' || c = ' ') && ((time? rest).bind offset?) == some []
  | none => time? cs == some []

def scalar? (cs : List Char) : Option Toml :=
  if cs = ['t', 'r', 'u', 'e'] then some (.boolean true)
  else if cs = ['f', 'a', 'l', 's', 'e'] then some (.boolean false)
  else if isDatetime cs then some .datetime
  else (integer? cs).or (float? cs)

end ObjectQuery.Toml
