import DeliveryFleet.Text.Utf8

/-!
# Blank payloads

A payload is blank (`isBlank`) when, read as UTF-8, it holds nothing but white space in the
Unicode sense (`isSpace`): the ASCII controls tab to carriage return, the space, U+0085, U+00A0,
and the space separators and line and paragraph separators of the Unicode character database.
A byte that starts no well-formed sequence is not white space, so it makes a payload non-blank.
-/

namespace DeliveryFleet.Space

/-- White space in the Unicode sense. -/
def isSpace (c : Char) : Bool :=
  let n := c.toNat
  (0x09 ≤ n && n ≤ 0x0D) || n == 0x20 || n == 0x85 || n == 0xA0 || n == 0x1680
    || (0x2000 ≤ n && n ≤ 0x200A) || n == 0x2028 || n == 0x2029 || n == 0x202F
    || n == 0x205F || n == 0x3000

/-- A payload with nothing but white space in it. -/
def isBlank (bs : List UInt8) : Bool := (Utf8.decode bs).all isSpace

end DeliveryFleet.Space
