/-!
# Pickup codes

A pickup code is six decimal digits (`Code.ofDraw`): a draw below one million, written with
leading zeros. `Code.isCode` tells a well-formed code.
-/

namespace DeliveryFleet.Code

/-- How many digits a code has. -/
def length : Nat := 6

/-- The code of a draw: its last six decimal digits, with leading zeros. -/
def ofDraw (n : Nat) : String :=
  let digits := Nat.toDigits 10 (n % Nat.pow 10 length)
  String.ofList (List.replicate (length - digits.length) '0' ++ digits)

/-- Whether a text is a well-formed code. -/
def isCode (s : String) : Bool := s.length == length && s.all Char.isDigit

end DeliveryFleet.Code
