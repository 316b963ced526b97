import ObjectQuery.Decimal.Notation
import ObjectQuery.Json.Basic

/-! Number literals of JSON: their grammar, the number each stands for, and the text of a number. -/

namespace ObjectQuery.Json.Number

/-- The sign, the digits of the three parts and the sign of the exponent. A part that is absent
has no digits. -/
structure Literal where
  negative : Bool
  whole : List Char
  fraction : List Char
  negativeExponent : Bool
  exponent : List Char

def digitsAt (cs : List Char) : List Char × List Char :=
  cs.span Char.isDigit

/-- A part that begins with one of `marks` and must then have a digit; it may be absent. -/
def fractionAt : List Char → Option (List Char × List Char)
  | '.' :: rest =>
    match digitsAt rest with
    | ([], _) => none
    | found => some found
  | rest => some ([], rest)

def exponentAt : List Char → Option (Bool × List Char × List Char)
  | c :: rest =>
    if c = 'e' ∨ c = 'E' then
      let (negative, rest) :=
        match rest with
        | '+' :: rest => (false, rest)
        | '-' :: rest => (true, rest)
        | rest => (false, rest)
      match digitsAt rest with
      | ([], _) => none
      | found => some (negative, found)
    else some (false, [], c :: rest)
  | [] => some (false, [], [])

/-- The literal at the start of the text and what follows it. A zero is followed by no digit. -/
def Literal.at? (cs : List Char) : Option (Literal × List Char) := do
  let (negative, cs) :=
    match cs with
    | '-' :: rest => (true, rest)
    | cs => (false, cs)
  let (whole, cs) := digitsAt cs
  if whole.isEmpty || (whole.head? == some '0' && whole.length != 1) then none
  else
    let (fraction, cs) ← fractionAt cs
    let (negativeExponent, exponent, cs) ← exponentAt cs
    return ({ negative, whole, fraction, negativeExponent, exponent }, cs)

def ofDigits (cs : List Char) : Nat :=
  cs.foldl (fun n c => 10 * n + (c.toNat - '0'.toNat)) 0

def maxWord : Nat := 0xFFFFFFFFFFFFFFFF

/-- Takes digits into a word while it stays within 64 bits; the rest are left over. -/
def absorb (word : Nat) : List Char → Nat × List Char
  | [] => (word, [])
  | c :: rest =>
    let next := 10 * word + (c.toNat - '0'.toNat)
    if next ≤ maxWord then absorb next rest else (word, c :: rest)

/-- The word times `10 ^ e` in floating point, scaled in one step where the power is a double.
`none` stands for a number that is too large. -/
def scale (x : Float) (e : Int) : Option Float :=
  if e.natAbs ≤ 308 then
    let power := Float.ofScientific 1 false e.natAbs
    if 0 ≤ e then
      let y := x * power
      if y.isInf then none else some y
    else some (x / power)
  else if x == 0 then some x
  else if 0 ≤ e then none
  else scale (x / Float.ofScientific 1 false 308) (e + 308)
termination_by e.natAbs
decreasing_by omega

/-- The nearest double of the leading digits that fit a word, scaled by a power of ten. Digits of
the whole part beyond the word count as zeros, those of the fraction are dropped. -/
def Literal.float? (l : Literal) : Option Float :=
  let (word, dropped) := absorb 0 l.whole
  let (word, unread) := absorb word l.fraction
  let shift : Int := dropped.length - (l.fraction.length - unread.length : Nat)
  let exponent := ofDigits l.exponent
  let magnitude :=
    if exponent < 1 <<< 31 then
      scale (UInt64.ofNat word).toFloat
        (if l.negativeExponent then shift - exponent else shift + exponent)
    else if word = 0 ∨ l.negativeExponent then some 0
    else none
  magnitude.map fun x => if l.negative then -x else x

/-- The number a literal stands for; `none` if it is beyond the range of a double. A negative zero
is a float, and so is an integer below the 64-bit signed or above the 64-bit unsigned range. -/
def Literal.number? (l : Literal) : Option Number :=
  let n := ofDigits l.whole
  if l.fraction.isEmpty ∧ l.exponent.isEmpty ∧ n ≤ maxWord then
    if ¬ l.negative then some (.int n)
    else if 0 < n ∧ n ≤ 1 <<< 63 then some (.int (-n))
    else some (.float (-(UInt64.ofNat n).toFloat))
  else l.float?.map .float

/-- Positional, with a fraction, while the leading digit stands at `10 ^ -5` to `10 ^ 15`. -/
def floatText (x : Float) : String :=
  let d := Decimal.ofFloat .toEven x
  if d.digits = 0 ∨ (-5 ≤ d.leading ∧ d.leading ≤ 15) then d.positional 1 else d.scientific

def text : Number → String
  | .int n => toString n
  | .float x => floatText x

end ObjectQuery.Json.Number
