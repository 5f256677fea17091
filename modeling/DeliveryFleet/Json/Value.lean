import DeliveryFleet.Decimal.Shortest

/-!
# JSON values and their text

`Json` is a JSON document. A number keeps its text, so that a number read from input is written
back as it came and one made from a double is written once, by `Json.ofFloat`.

`Json.render` writes the compact text: no blanks, members in their order, and strings escaped
for safe embedding in HTML: `<`, `>` and `&`, the line separator U+2028 and the paragraph
separator U+2029 as six-character `\u` escapes, the controls with the short escapes JSON has
(`\b \f \n \r \t`) and as `\u00XX` otherwise.

A double is written with its shortest digits (`Binary.shortest`): positionally when its magnitude
lies in `[1e-6, 1e21)` or it is zero, otherwise as `d.ddd` and an exponent with its sign, of
at least two digits when positive (`1e+21`) and of as many as it needs when negative (`1e-7`).
Zero keeps its sign (`-0`).
-/

namespace DeliveryFleet

/-- A JSON document. -/
inductive Json where
  | null
  | bool (b : Bool)
  | number (text : String)
  | string (s : String)
  | array (items : List Json)
  | object (members : List (String × Json))
  deriving Repr, Inhabited

namespace Json

/-- Zeros to pad a digit string with. -/
def zeros (n : Nat) : List Char := List.replicate n '0'

/-- The text of a finite double. -/
def floatText (x : Float) : String :=
  let sign := if x.toBits.toNat / 9223372036854775808 == 1 then "-" else ""
  if x == 0 then sign ++ "0"
  else
    let d := (Binary.ofFloat x).shortest
    let ds := d.digits
    let dp := d.pointPos
    let a := x.abs
    if a < 1e-6 || a ≥ 1e21 then
      let e := dp - 1
      let mant := match ds with
        | [] => "0"
        | [c] => String.ofList [c]
        | c :: rest => String.ofList (c :: '.' :: rest)
      let expText :=
        if e < 0 then "-" ++ toString e.natAbs
        else "+" ++ (if e < 10 then "0" else "") ++ toString e.natAbs
      sign ++ mant ++ "e" ++ expText
    else if dp ≤ 0 then
      sign ++ String.ofList ('0' :: '.' :: zeros dp.natAbs ++ ds)
    else if dp.toNat ≥ ds.length then
      sign ++ String.ofList (ds ++ zeros (dp.toNat - ds.length))
    else
      sign ++ String.ofList (ds.take dp.toNat ++ '.' :: ds.drop dp.toNat)

/-- A double as a JSON number. -/
def ofFloat (x : Float) : Json := .number (floatText x)

/-- An integer as a JSON number. -/
def ofInt (i : Int) : Json := .number (toString i)

/-- A natural number as a JSON number. -/
def ofNat (n : Nat) : Json := .number (toString n)

/-- A text, or `null` when absent. -/
def ofOption (f : α → Json) : Option α → Json
  | some a => f a
  | none => .null

/-- Hexadecimal digit of a value below 16. -/
def hexDigit (n : Nat) : Char := "0123456789abcdef".toList.getD n '0'

/-- The escape of one character inside a string. -/
def escapeChar (c : Char) : List Char :=
  let n := c.toNat
  if c == '"' then ['\\', '"']
  else if c == '\\' then ['\\', '\\']
  else if n == 8 then ['\\', 'b']
  else if n == 12 then ['\\', 'f']
  else if c == '\n' then ['\\', 'n']
  else if c == '\r' then ['\\', 'r']
  else if c == '\t' then ['\\', 't']
  else if n < 0x20 || c == '<' || c == '>' || c == '&' then
    ['\\', 'u', '0', '0', hexDigit (n / 16), hexDigit (n % 16)]
  else if n == 0x2028 || n == 0x2029 then ['\\', 'u', '2', '0', '2', hexDigit (n % 16)]
  else [c]

/-- A string as a quoted JSON string. -/
def quote (s : String) : String :=
  String.ofList ('"' :: (s.toList.flatMap escapeChar ++ ['"']))

mutual

/-- The compact text of a document. -/
def render : Json → String
  | .null => "null"
  | .bool true => "true"
  | .bool false => "false"
  | .number t => t
  | .string s => quote s
  | .array items => "[" ++ renderItems items ++ "]"
  | .object members => "\x7b" ++ renderMembers members ++ "\x7d"

/-- The items of an array, separated by commas. -/
def renderItems : List Json → String
  | [] => ""
  | [j] => render j
  | j :: rest => render j ++ "," ++ renderItems rest

/-- The members of an object, separated by commas. -/
def renderMembers : List (String × Json) → String
  | [] => ""
  | [(k, v)] => quote k ++ ":" ++ render v
  | (k, v) :: rest => quote k ++ ":" ++ render v ++ "," ++ renderMembers rest

end

/-- The value of a member of an object, the last one of that name. -/
def field? (j : Json) (name : String) : Option Json :=
  match j with
  | .object members => (members.reverse.find? (·.1 == name)).map (·.2)
  | _ => none

end Json

end DeliveryFleet
