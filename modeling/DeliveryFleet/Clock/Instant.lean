/-!
# Instants and durations

An `Instant` is a count of nanoseconds from 1970-01-01T00:00:00Z, unbounded either way. The
distinguished `Instant.zero` is the first instant of year 1; it stands for "never" and is written
`null`. A duration is an integer number of nanoseconds.

Three conversions keep their word-sized rules:

* `Instant.since` is the duration between two instants, held to the signed 64-bit range
  (`Duration.clamp`), so that a distance too long to count is the longest duration;
* `Instant.toStored` is the signed 64-bit count kept in the store: `0` for the zero instant,
  otherwise the nanosecond count taken modulo `2^64`; `Instant.ofStored` reads it back, `0`
  giving the zero instant;
* `Duration.ofMillis` scales milliseconds by `10^6` in 64-bit arithmetic.

`Instant.rfc3339` writes an instant in UTC with the fraction of a second cut of trailing zeros.
-/

namespace DeliveryFleet

/-- Nanoseconds in a second. -/
def nanosPerSecond : Int := 1000000000

/-- The least and greatest signed 64-bit values. -/
def int64Min : Int := -9223372036854775808
def int64Max : Int := 9223372036854775807

/-- An integer taken modulo `2^64` into the signed 64-bit range. -/
def wrap64 (n : Int) : Int :=
  let m := n % 18446744073709551616
  if m ≥ 9223372036854775808 then m - 18446744073709551616 else m

namespace Duration

/-- A duration held to the signed 64-bit range. -/
def clamp (d : Int) : Int := max int64Min (min int64Max d)

/-- Milliseconds as a duration, in 64-bit arithmetic. -/
def ofMillis (ms : Int) : Int := wrap64 (ms * 1000000)

/-- A duration rounded to a multiple of `unit` (positive), halves away from zero; a result
beyond the 64-bit range is the nearest end of it. -/
def round (d unit : Int) : Int :=
  let r := d.tmod unit
  if d < 0 then
    let r := -r
    if r + r < unit then d + r
    else
      let d1 := d - unit + r
      if d1 < int64Min then int64Min else d1
  else
    if r + r < unit then d - r
    else
      let d1 := d + unit - r
      if d1 > int64Max then int64Max else d1

end Duration

/-- A point on the fleet's clock. -/
structure Instant where
  nanos : Int
  deriving Repr, BEq, DecidableEq, Inhabited

namespace Instant

/-- Days from 0001-01-01 to 1970-01-01. -/
def epochDaysFromYearOne : Int := 719162

/-- The first instant of year 1, standing for "never". -/
def zero : Instant := ⟨-(epochDaysFromYearOne * 86400) * nanosPerSecond⟩

/-- Whether an instant is the zero instant. -/
def isZero (t : Instant) : Bool := t.nanos == zero.nanos

/-- An instant moved by a duration. -/
def add (t : Instant) (d : Int) : Instant := ⟨t.nanos + d⟩

/-- The duration from `u` to `t`, held to the 64-bit range. -/
def since (t u : Instant) : Int := Duration.clamp (t.nanos - u.nanos)

/-- Whether `t` comes strictly before `u`. -/
def before (t u : Instant) : Bool := t.nanos < u.nanos

/-- The count kept in the store for an instant. -/
def toStored (t : Instant) : Int := if t.isZero then 0 else wrap64 t.nanos

/-- The instant of a stored count. -/
def ofStored (n : Int) : Instant := if n == 0 then zero else ⟨n⟩

/-! ### Calendar -/

/-- The civil date of a day counted from 1970-01-01, as (year, month, day). -/
def civilOfDays (z : Int) : Int × Nat × Nat :=
  let z := z + 719468
  let era := z / 146097
  let doe := z - era * 146097
  let yoe := (doe - doe / 1460 + doe / 36524 - doe / 146096) / 365
  let y := yoe + era * 400
  let doy := doe - (365 * yoe + yoe / 4 - yoe / 100)
  let mp := (5 * doy + 2) / 153
  let d := doy - (153 * mp + 2) / 5 + 1
  let m := if mp < 10 then mp + 3 else mp - 9
  ((if m ≤ 2 then y + 1 else y), m.toNat, d.toNat)

/-- The day counted from 1970-01-01 of a civil date. -/
def daysOfCivil (y : Int) (m d : Nat) : Int :=
  let y := if m ≤ 2 then y - 1 else y
  let era := y / 400
  let yoe := y - era * 400
  let mp : Int := if m > 2 then (m : Int) - 3 else (m : Int) + 9
  let doy := (153 * mp + 2) / 5 + (d : Int) - 1
  let doe := yoe * 365 + yoe / 4 - yoe / 100 + doy
  era * 146097 + doe - 719468

/-- Whether a year is a leap year. -/
def isLeap (y : Int) : Bool := (y % 4 == 0 && y % 100 != 0) || y % 400 == 0

/-- The number of days in a month of a year. -/
def daysIn (m : Nat) (y : Int) : Nat :=
  if m == 2 then (if isLeap y then 29 else 28)
  else if m == 4 || m == 6 || m == 9 || m == 11 then 30 else 31

/-- A number written with at least `width` digits. -/
def padded (width : Nat) (n : Nat) : String :=
  let s := toString n
  String.ofList (List.replicate (width - s.length) '0') ++ s

/-- The fraction of a second, without trailing zeros, with its point; empty when whole. -/
def fraction (ns : Nat) : String :=
  if ns == 0 then ""
  else "." ++ String.ofList ((padded 9 ns).toList.reverse.dropWhile (· == '0')).reverse

/-- The RFC 3339 text of an instant, in UTC, with nanoseconds when there are any. -/
def rfc3339 (t : Instant) : String :=
  let secs := t.nanos / nanosPerSecond
  let ns := (t.nanos % nanosPerSecond).toNat
  let days := secs / 86400
  let rem := (secs % 86400).toNat
  let (y, m, d) := civilOfDays days
  let yearText := if y < 0 then "-" ++ padded 4 y.natAbs else padded 4 y.toNat
  yearText ++ "-" ++ padded 2 m ++ "-" ++ padded 2 d ++ "T" ++ padded 2 (rem / 3600) ++ ":" ++
    padded 2 (rem / 60 % 60) ++ ":" ++ padded 2 (rem % 60) ++ fraction ns ++ "Z"

/-- The instant of a civil date and time in UTC. -/
def ofCivil (y : Int) (mo d h mi s : Nat) (ns : Nat) : Instant :=
  ⟨((daysOfCivil y mo d * 86400 + (h * 3600 + mi * 60 + s : Nat)) * nanosPerSecond) + ns⟩

end Instant

end DeliveryFleet
