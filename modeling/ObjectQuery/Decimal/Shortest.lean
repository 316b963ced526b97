/-! The fewest decimal digits that read back as a given binary floating-point number. -/

namespace ObjectQuery

/-- The number `digits · 10 ^ exponent`, with its sign apart so that a zero keeps one. -/
structure Decimal where
  negative : Bool
  digits : Nat
  exponent : Int
  deriving Repr, DecidableEq

namespace Decimal

/-- The positive number `mantissa · 2 ^ exponent`, one of a grid of spacing `2 ^ exponent`. The
grid below the number is twice as fine when `finerBelow`. -/
structure Binary where
  mantissa : Nat
  exponent : Int
  finerBelow : Bool

/-- Which neighbour is taken when both are equally near. -/
inductive Tie where
  | toEven
  | up
  deriving Repr, DecidableEq

def Binary.ofBits (bits : Nat) : Binary :=
  let field : Nat := (bits >>> 52) % 0x800
  let fraction : Nat := bits % (1 <<< 52)
  if field = 0 then ⟨fraction, -1074, false⟩
  else ⟨fraction + 1 <<< 52, (field : Int) - 1075, fraction = 0 ∧ 1 < field⟩

/-- The multiple of `10 ^ e` nearest to the number, among the two around it, of those that round
to it. All is compared in units of a quarter of the spacing, over a common denominator. -/
def Binary.onGrid? (b : Binary) (tie : Tie) (e : Int) : Option Nat :=
  let unit := 4 * Nat.pow 10 e.toNat * Nat.pow 2 (-b.exponent).toNat
  let scale := Nat.pow 2 b.exponent.toNat * Nat.pow 10 (-e).toNat
  let target := 4 * b.mantissa * scale
  let low := (4 * b.mantissa - if b.finerBelow then 1 else 2) * scale
  let high := (4 * b.mantissa + 2) * scale
  let even := b.mantissa % 2 = 0
  let below := target / unit
  let above := below + 1
  let belowFits := low < below * unit ∨ (even ∧ low = below * unit)
  let aboveFits := above * unit < high ∨ (even ∧ above * unit = high)
  let toBelow := target - below * unit
  let toAbove := above * unit - target
  if belowFits ∧ aboveFits then
    if toBelow < toAbove then some below
    else if toAbove < toBelow then some above
    else if tie = .toEven ∧ below % 2 = 0 then some below
    else some above
  else if belowFits then some below
  else if aboveFits then some above
  else none

/-- The exponent of the leading digit. -/
def Binary.leading (b : Binary) : Int :=
  let scaled :=
    b.mantissa * Nat.pow 2 b.exponent.toNat * Nat.pow 10 340 / Nat.pow 2 (-b.exponent).toNat
  (Nat.toDigits 10 scaled).length - 341

/-- Without the zeros at the end of its digits; `fuel` bounds their number. -/
def stripZeros : Nat → Nat → Int → Nat × Int
  | 0, digits, exponent => (digits, exponent)
  | fuel + 1, digits, exponent =>
    if digits % 10 = 0 then stripZeros fuel (digits / 10) (exponent + 1) else (digits, exponent)

/-- The hit on the coarsest grid that has one. Seventeen digits tell any two doubles apart, so it is
among the first seventeen. -/
def Binary.firstHit? (b : Binary) (tie : Tie) : Option (Nat × Int) :=
  (List.range 17).findSome? fun (k : Nat) =>
    (b.onGrid? tie (b.leading - k)).map (·, b.leading - k)

def Binary.ofHit (b : Binary) : Option (Nat × Int) → Nat × Int
  | some (digits, e) => stripZeros 18 digits e
  | none => (b.mantissa, b.exponent)

def Binary.shortest (b : Binary) (tie : Tie) : Nat × Int :=
  b.ofHit (b.firstHit? tie)

/-- The finite number that has the given bits of a double. -/
def ofBits (tie : Tie) (bits : Nat) : Decimal :=
  let magnitude := bits % (1 <<< 63)
  let negative := 1 <<< 63 ≤ bits
  if magnitude = 0 then ⟨negative, 0, 0⟩
  else
    let found := (Binary.ofBits magnitude).shortest tie
    ⟨negative, found.1, found.2⟩

def ofFloat (tie : Tie) (x : Float) : Decimal :=
  ofBits tie x.toBits.toNat

end Decimal

end ObjectQuery
