/-!
# Shortest decimal form of a double

A finite double `x` is `m · 2^q` for a natural `m` (`Binary.ofFloat`). The reals that round to it
form an interval around it (`Binary.lower`, `Binary.upper`), with both ends included when `m`
is even, since a tie goes to the even mantissa. `Binary.shortest` finds the decimal
`c · 10^k` in that interval with the fewest significant digits; where the grid `10^k` holds two
such points (the two neighbours of `x` on it), the nearer is taken, and of two equally near the
one with an even `c`.

All comparisons are exact, in natural numbers: a rational is a numerator and a denominator, and
two of them are compared by cross-multiplying. `Decimal.digits` and `Decimal.pointPos` give the
digit string and the place of the decimal point that printers need.
-/

namespace DeliveryFleet

/-- A finite double as a mantissa and a binary exponent, with its sign apart. -/
structure Binary where
  negative : Bool
  mantissa : Nat
  exponent : Int
  deriving Repr

/-- A decimal `coeff · 10^exp`, with its sign apart. -/
structure Decimal where
  negative : Bool
  coeff : Nat
  exp : Int
  deriving Repr, BEq

namespace Binary

/-- The mantissa and exponent of a finite double (infinities and NaN give their raw fields). -/
def ofFloat (x : Float) : Binary :=
  let bits : Nat := x.toBits.toNat
  let frac : Nat := bits % 4503599627370496
  let biased : Nat := (bits / 4503599627370496) % 2048
  let negative := bits / 9223372036854775808 == 1
  if biased == 0 then ⟨negative, frac, -1074⟩
  else ⟨negative, frac + 4503599627370496, (biased : Int) - 1075⟩

/-- Whether the double sits on the lower edge of a binade, where the gap below is half the gap
above. -/
def atBinadeEdge (b : Binary) : Bool := b.mantissa == 4503599627370496 && b.exponent > -1074

/-- `n · 2^e` as a numerator and a denominator. -/
def scaled (n : Nat) (e : Int) : Nat × Nat :=
  if e ≥ 0 then (n * Nat.pow 2 e.toNat, 1) else (n, Nat.pow 2 (-e).toNat)

/-- The lower end of the rounding interval. -/
def lower (b : Binary) : Nat × Nat :=
  if b.atBinadeEdge then scaled (4 * b.mantissa - 1) (b.exponent - 2)
  else scaled (2 * b.mantissa - 1) (b.exponent - 1)

/-- The upper end of the rounding interval. -/
def upper (b : Binary) : Nat × Nat := scaled (2 * b.mantissa + 1) (b.exponent - 1)

/-- The value itself. -/
def value (b : Binary) : Nat × Nat := scaled b.mantissa b.exponent

/-- Whether the ends of the rounding interval read back as the double. -/
def inclusive (b : Binary) : Bool := b.mantissa % 2 == 0

end Binary

/-- `a ≤ b` for rationals given as numerator and denominator. -/
def ratLe (a b : Nat × Nat) : Bool := a.1 * b.2 ≤ b.1 * a.2

/-- `a < b` for rationals given as numerator and denominator. -/
def ratLt (a b : Nat × Nat) : Bool := a.1 * b.2 < b.1 * a.2

/-- `c · 10^k` as a numerator and a denominator. -/
def gridPoint (c : Nat) (k : Int) : Nat × Nat :=
  if k ≥ 0 then (c * Nat.pow 10 k.toNat, 1) else (c, Nat.pow 10 (-k).toNat)

namespace Binary

/-- Whether `c · 10^k` reads back as the double. -/
def admits (b : Binary) (c : Nat) (k : Int) : Bool :=
  let p := gridPoint c k
  c > 0 &&
    (if b.inclusive then ratLe b.lower p && ratLe p b.upper
     else ratLt b.lower p && ratLt p b.upper)

/-- The greatest `c` with `c · 10^k ≤ x`. -/
def floorOn (b : Binary) (k : Int) : Nat :=
  let v := b.value
  if k ≥ 0 then v.1 / (v.2 * Nat.pow 10 k.toNat) else v.1 * Nat.pow 10 (-k).toNat / v.2

/-- The distance from `x` to `c · 10^k`, as a rational. -/
def distance (b : Binary) (c : Nat) (k : Int) : Nat × Nat :=
  let v := b.value
  let p := gridPoint c k
  let l := v.1 * p.2
  let r := p.1 * v.2
  (if l ≥ r then l - r else r - l, v.2 * p.2)

/-- The point of the grid `10^k` that stands for the double, if the grid has one in the
rounding interval: of the two neighbours of `x` the one inside; of two inside, the nearer; of
two equally near, the even one. -/
def pick? (b : Binary) (k : Int) : Option Nat :=
  let lo := b.floorOn k
  let hi := lo + 1
  match b.admits lo k, b.admits hi k with
  | true, true =>
    let dl := b.distance lo k
    let dh := b.distance hi k
    if ratLt dl dh then some lo
    else if ratLt dh dl then some hi
    else if lo % 2 == 0 then some lo else some hi
  | true, false => some lo
  | false, true => some hi
  | false, false => none

/-- An exponent `k` with `10^k` above the double, from which the search walks down. -/
def startExponent (b : Binary) : Int :=
  ((Nat.log2 b.mantissa : Int) + b.exponent + 1) * 30103 / 100000 + 2

/-- The first grid, walking down from `k`, that holds a point standing for the double. -/
def search (b : Binary) : Nat → Int → Decimal
  | 0, k => ⟨b.negative, b.floorOn k, k⟩
  | fuel + 1, k =>
    match b.pick? k with
    | some c => ⟨b.negative, c, k⟩
    | none => b.search fuel (k - 1)

/-- Drops trailing zeros of the coefficient. -/
def trim : Nat → Decimal → Decimal
  | 0, d => d
  | fuel + 1, d =>
    if d.coeff > 0 && d.coeff % 10 == 0 then trim fuel ⟨d.negative, d.coeff / 10, d.exp + 1⟩
    else d

/-- The shortest decimal that reads back as a finite nonzero double. Twenty grids below the
starting one always suffice, as seventeen significant digits identify every double. -/
def shortest (b : Binary) : Decimal :=
  trim 20 (b.search 24 b.startExponent)

end Binary

namespace Decimal

/-- The significant digits, most significant first. -/
def digits (d : Decimal) : List Char := (Nat.repr d.coeff).toList

/-- Where the decimal point stands: the value is `0.d₁d₂… · 10^pointPos`. -/
def pointPos (d : Decimal) : Int := (d.digits.length : Int) + d.exp

end Decimal

end DeliveryFleet
