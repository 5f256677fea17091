import DeliveryFleet.Json.Value
import DeliveryFleet.Decimal.Read

/-!
# Request fields

A request is a JSON object; its fields are read leniently (`Request.text`, `Request.int?`,
`Request.flag`): a field that is missing or of another kind reads as the default. A field that is
present counts as given whatever its kind (`Request.int?`, `Request.text?`), so that it takes
precedence over a field it overrides; `Request.string?` and `Request.number?` count a field only
when it holds a value of their kind. Numbers are 64-bit integers: a literal with a fraction or
an exponent, or one beyond 64 bits, is read as a double and cut toward zero.
-/

namespace DeliveryFleet.Request

/-- A text field, empty when missing. -/
def text (j : Json) (key : String) : String :=
  match j.field? key with
  | some (.string s) => s
  | _ => ""

/-- A text field, if it holds text. -/
def string? (j : Json) (key : String) : Option String :=
  match j.field? key with
  | some (.string s) => some s
  | _ => none

/-- A text field, if present: a value of another kind (`null` included) gives the empty text. -/
def text? (j : Json) (key : String) : Option String :=
  (j.field? key).map fun
    | .string s => s
    | _ => ""

/-- The integer of a number literal without fraction or exponent. -/
def intOfLiteral? (t : String) : Option Int :=
  match t.toList with
  | '-' :: ds =>
    if !ds.isEmpty && ds.all Char.isDigit then some (-(String.ofList ds).toNat! : Int) else none
  | ds =>
    if !ds.isEmpty && ds.all Char.isDigit then some ((String.ofList ds).toNat! : Int) else none

/-- The least 64-bit integer, which also stands for a double beyond the 64-bit range. -/
def int64Min : Int := -9223372036854775808

/-- Whether an integer fits in 64 bits. -/
def fitsInt64 (n : Int) : Bool := int64Min ≤ n && n < 9223372036854775808

/-- A double cut toward zero to a 64-bit integer; a double outside the range, infinite or not a
number gives `int64Min`. -/
def truncate64 (x : Float) : Int :=
  if x.isNaN || x.abs ≥ 9223372036854775808.0 then int64Min
  else
    let m : Int := (x.abs.toUInt64.toNat : Int)
    if x < 0 then -m else m

/-- The 64-bit integer a number literal stands for: an integer literal in range stands for
itself; any other literal is read as the nearest double and cut toward zero (`truncate64`), and
a literal beyond every double is out of range. -/
def intOfNumber (t : String) : Int :=
  match intOfLiteral? t with
  | some n => if fitsInt64 n then n else truncate64 ((Decimal.toFloat? t).getD (1.0 / 0.0))
  | none => truncate64 ((Decimal.toFloat? t).getD (1.0 / 0.0))

/-- An integer field, if present: a number gives its 64-bit integer (`intOfNumber`), a value of
any other kind (`null` included) gives zero. -/
def int? (j : Json) (key : String) : Option Int :=
  (j.field? key).map fun
    | .number t => intOfNumber t
    | _ => 0

/-- An integer field, if it holds a number. -/
def number? (j : Json) (key : String) : Option Int :=
  match j.field? key with
  | some (.number t) => some (intOfNumber t)
  | _ => none

/-- An integer field, zero when missing. -/
def int (j : Json) (key : String) : Int := (int? j key).getD 0

/-- A flag field, `default` when missing. -/
def flag (j : Json) (key : String) (default : Bool) : Bool :=
  match j.field? key with
  | some (.bool b) => b
  | _ => default

end DeliveryFleet.Request
