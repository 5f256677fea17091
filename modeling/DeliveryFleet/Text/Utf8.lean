/-!
# UTF-8 with replacement

Payloads arrive as raw bytes, so text is read from them by `Utf8.decode`: a well-formed UTF-8
sequence (Unicode table 3-7: no overlong form, no surrogate, nothing past U+10FFFF) gives its
character, and a byte that starts no well-formed sequence gives U+FFFD on its own, after which
reading goes on at the next byte (`Utf8.pieces` keeps such bytes apart). `Utf8.text?` is the
text of bytes that are well-formed throughout, and `Utf8.encode` writes the bytes of a text.

-/

namespace DeliveryFleet.Utf8

/-- The character that stands for a byte that starts no well-formed sequence. -/
def replacement : Char := '\uFFFD'

/-- A continuation byte, `0x80` to `0xBF`. -/
def isTail (b : UInt8) : Bool := 0x80 ≤ b && b ≤ 0xBF

/-- The low six bits of a continuation byte. -/
def tailBits (b : UInt8) : Nat := b.toNat % 64

/-- The allowed range of the second byte after a lead byte of a three- or four-byte form. -/
def secondRange (b0 : UInt8) : UInt8 × UInt8 :=
  if b0 == 0xE0 then (0xA0, 0xBF)
  else if b0 == 0xED then (0x80, 0x9F)
  else if b0 == 0xF0 then (0x90, 0xBF)
  else if b0 == 0xF4 then (0x80, 0x8F)
  else (0x80, 0xBF)

/-- Whether `b` lies in the range `r`. -/
def within (r : UInt8 × UInt8) (b : UInt8) : Bool := r.1 ≤ b && b ≤ r.2

/-- A piece of a byte sequence read as text: a character of a well-formed sequence, or a byte
that starts none. -/
inductive Piece where
  | char (c : Char)
  | stray (b : UInt8)
  deriving Repr, BEq

/-- Reads a byte sequence piece by piece; after a stray byte reading goes on at the next byte. -/
def pieces : List UInt8 → List Piece
  | [] => []
  | b0 :: rest =>
    if b0 < 0x80 then
      .char (Char.ofNat b0.toNat) :: pieces rest
    else if 0xC2 ≤ b0 && b0 ≤ 0xDF then
      match h : rest with
      | b1 :: r1 =>
        if isTail b1 then
          .char (Char.ofNat ((b0.toNat % 32) * 64 + tailBits b1)) :: pieces r1
        else .stray b0 :: pieces rest
      | [] => [.stray b0]
    else if 0xE0 ≤ b0 && b0 ≤ 0xEF then
      match h : rest with
      | b1 :: b2 :: r2 =>
        if within (secondRange b0) b1 && isTail b2 then
          .char (Char.ofNat ((b0.toNat % 16) * 4096 + tailBits b1 * 64 + tailBits b2)) ::
            pieces r2
        else .stray b0 :: pieces rest
      | _ => .stray b0 :: pieces rest
    else if 0xF0 ≤ b0 && b0 ≤ 0xF4 then
      match h : rest with
      | b1 :: b2 :: b3 :: r3 =>
        if within (secondRange b0) b1 && isTail b2 && isTail b3 then
          .char (Char.ofNat ((b0.toNat % 8) * 262144 + tailBits b1 * 4096 + tailBits b2 * 64
            + tailBits b3)) :: pieces r3
        else .stray b0 :: pieces rest
      | _ => .stray b0 :: pieces rest
    else .stray b0 :: pieces rest
termination_by bs => bs.length
decreasing_by all_goals ((try subst h); simp; try omega)

/-- The character a piece reads as: a stray byte reads as `replacement`. -/
def Piece.toChar : Piece → Char
  | .char c => c
  | .stray _ => replacement

/-- Reads a byte sequence as text; each byte that starts no well-formed sequence becomes
`replacement`. -/
def decode (bs : List UInt8) : List Char := (pieces bs).map Piece.toChar

/-- The text of a byte sequence that is well-formed UTF-8 throughout, if it is. -/
def text? (bs : List UInt8) : Option String :=
  String.ofList <$> (pieces bs).mapM fun
    | .char c => some c
    | .stray _ => none

/-- The bytes of a text. -/
def encode (s : String) : List UInt8 := s.toUTF8.toList

/-- Reads bytes as a `String`, replacing what is not well-formed. -/
def decodeString (bs : List UInt8) : String := String.ofList (decode bs)

end DeliveryFleet.Utf8
