import ObjectQuery.Decimal.Shortest

/-! How a decimal is written: positionally, or with one digit before the point and an exponent. -/

namespace ObjectQuery.Decimal

def text (d : Decimal) : List Char :=
  Nat.toDigits 10 d.digits

/-- The exponent of the leading digit. -/
def leading (d : Decimal) : Int :=
  d.exponent + d.text.length - 1

def signed (d : Decimal) (body : List Char) : String :=
  String.ofList (if d.negative then '-' :: body else body)

/-- All digits around a point, with at least `places` of them behind it and no point before none. -/
def positional (places : Nat) (d : Decimal) : String :=
  let behind := (-d.exponent).toNat
  let whole := d.text ++ List.replicate d.exponent.toNat '0'
  let padded := List.replicate (behind + 1 - whole.length) '0' ++ whole
  let front := padded.take (padded.length - behind)
  let fraction := padded.drop (padded.length - behind)
  let fraction := fraction ++ List.replicate (places - fraction.length) '0'
  d.signed (if fraction.isEmpty then front else front ++ '.' :: fraction)

/-- One digit, the others behind a point if there are any, and the exponent with its sign. -/
def scientific (d : Decimal) : String :=
  let mantissa :=
    match d.text with
    | first :: second :: rest => first :: '.' :: second :: rest
    | short => short
  let exponent := (if d.leading < 0 then '-' else '+') :: Nat.toDigits 10 d.leading.natAbs
  d.signed (mantissa ++ 'e' :: exponent)

end ObjectQuery.Decimal
