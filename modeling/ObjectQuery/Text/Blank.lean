/-! White space as Unicode defines it, which is wider than `Char.isWhitespace`. -/

namespace ObjectQuery.Text

/-- The property `White_Space` of the Unicode character database. -/
def isBlank (c : Char) : Bool :=
  (0x9 ≤ c.toNat && c.toNat ≤ 0xD) || (0x2000 ≤ c.toNat && c.toNat ≤ 0x200A) ||
    [0x20, 0x85, 0xA0, 0x1680, 0x2028, 0x2029, 0x202F, 0x205F, 0x3000].contains c.toNat

/-- The text without the white space at its two ends. -/
def trim (s : String) : String :=
  String.ofList ((s.toList.dropWhile isBlank).reverse.dropWhile isBlank).reverse

/-- Nothing but white space, the empty text included. -/
def isBlankText (s : String) : Bool :=
  s.toList.all isBlank

end ObjectQuery.Text
