/-!
# Reading a decimal literal as a double

`Decimal.toFloat?` reads the text of a JSON number (`-?digits(.digits)?([eE][+-]?digits)?`) as
the double nearest to it, a tie going to the even mantissa. A literal too large for a double
has no reading (`none`); one too small for the least subnormal reads as zero of its sign.

The literal is first taken apart into a coefficient and a power of ten (`Decimal.parts`); only
then is the power bounded, so that an exponent of many digits costs nothing.
-/

namespace DeliveryFleet.Decimal

/-- The value of a digit byte. -/
def digitValue (c : Char) : Nat := c.toNat - 48

/-- The natural number of a string of digits. -/
def natOfDigits (ds : List Char) : Nat := ds.foldl (fun n c => 10 * n + digitValue c) 0

/-- A literal as its sign, its coefficient and the power of ten it is scaled by. -/
def parts (text : String) : Bool × Nat × Int :=
  let cs := text.toList
  let (neg, cs) := match cs with
    | '-' :: rest => (true, rest)
    | _ => (false, cs)
  let intDigits := cs.takeWhile Char.isDigit
  let cs := cs.dropWhile Char.isDigit
  let (fracDigits, cs) := match cs with
    | '.' :: rest => (rest.takeWhile Char.isDigit, rest.dropWhile Char.isDigit)
    | _ => ([], cs)
  let exp : Int := match cs with
    | e :: rest =>
      if e == 'e' || e == 'E' then
        match rest with
        | '-' :: ds => -(natOfDigits ds : Int)
        | '+' :: ds => (natOfDigits ds : Int)
        | ds => (natOfDigits ds : Int)
      else 0
    | [] => 0
  (neg, natOfDigits (intDigits ++ fracDigits), exp - fracDigits.length)

/-- The nearest double to a literal, or `none` when it is beyond the largest double. -/
def toFloat? (text : String) : Option Float :=
  let (neg, coeff, exp) := parts text
  let signed (x : Float) : Float := if neg then -x else x
  if coeff == 0 then some (signed 0)
  else
    let magnitude : Int := ((Nat.repr coeff).length : Int) + exp
    if magnitude > 310 then none
    else if magnitude < -330 then some (signed 0)
    else
      let x :=
        if exp ≥ 0 then Float.ofScientific (coeff * Nat.pow 10 exp.toNat) false 0
        else Float.ofScientific coeff true (-exp).toNat
      if x.isInf then none else some (signed x)

end DeliveryFleet.Decimal
