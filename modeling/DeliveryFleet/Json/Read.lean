import DeliveryFleet.Json.Value
import DeliveryFleet.Text.Utf8

/-!
# Reading JSON from bytes

`Json.read` reads a document from raw bytes, strictly: blanks are only space, tab, line feed and
carriage return; a number is `-?(0|[1-9][0-9]*)(.[0-9]+)?([eE][+-]?[0-9]+)?` and keeps its
text; a string may not hold a control character; nothing but blanks may follow the document.
Inside a string a byte that starts no well-formed UTF-8 sequence reads as U+FFFD, and so does a
`\u` escape of a surrogate that is not the first half of a pair.

A text that is not JSON gives a `SyntaxError`, found at the first byte that rules the text out,
and `SyntaxError.message` words it the way the service reports it
(`invalid character 'x' looking for beginning of value`, `unexpected end of JSON input`).
-/

namespace DeliveryFleet

/-- Why a text is not a JSON document. -/
inductive SyntaxError where
  /-- The text ends inside a document. -/
  | unexpectedEnd
  /-- A byte that cannot stand where it does; `context` says what was expected there. -/
  | invalidChar (b : UInt8) (context : String)
  deriving Repr, BEq

namespace SyntaxError

/-- A byte quoted for a message, as the character of its value in single quotes: a quote or
backslash escaped, the short escapes for the usual controls, two hexadecimal digits after `\x`
for the other ASCII controls, and four after `\u` for 0x80 to 0xA0 and 0xAD, which do not
print. -/
def quoteByte (b : UInt8) : String :=
  let n := b.toNat
  if n == 0x27 then "'\\''"
  else if n == 0x22 then "'\"'"
  else if n == 7 then "'\\a'" else if n == 8 then "'\\b'" else if n == 12 then "'\\f'"
  else if n == 10 then "'\\n'" else if n == 13 then "'\\r'" else if n == 9 then "'\\t'"
  else if n == 11 then "'\\v'" else if n == 0x5C then "'\\\\'"
  else if n < 0x20 || n == 0x7F then
    "'\\x" ++ String.ofList [Json.hexDigit (n / 16), Json.hexDigit (n % 16)] ++ "'"
  else if (0x80 ≤ n && n < 0xA1) || n == 0xAD then
    "'\\u00" ++ String.ofList [Json.hexDigit (n / 16), Json.hexDigit (n % 16)] ++ "'"
  else "'" ++ String.ofList [Char.ofNat n] ++ "'"

/-- The wording of a syntax error. -/
def message : SyntaxError → String
  | .unexpectedEnd => "unexpected end of JSON input"
  | .invalidChar b context => "invalid character " ++ quoteByte b ++ " " ++ context

end SyntaxError

namespace Json

/-- A JSON blank. -/
def isBlank (b : UInt8) : Bool := b == 0x20 || b == 0x09 || b == 0x0A || b == 0x0D

/-- Drops leading blanks. -/
def skipBlanks : List UInt8 → List UInt8
  | [] => []
  | b :: rest => if isBlank b then skipBlanks rest else b :: rest

/-- An ASCII digit. -/
def isDigit (b : UInt8) : Bool := 0x30 ≤ b && b ≤ 0x39

/-- The value of a hexadecimal digit. -/
def hexValue? (b : UInt8) : Option Nat :=
  if 0x30 ≤ b && b ≤ 0x39 then some (b.toNat - 0x30)
  else if 0x61 ≤ b && b ≤ 0x66 then some (b.toNat - 0x61 + 10)
  else if 0x41 ≤ b && b ≤ 0x46 then some (b.toNat - 0x41 + 10)
  else none

/-- Four hexadecimal digits as a number. -/
def hex4? (h1 h2 h3 h4 : UInt8) : Option Nat := do
  let a ← hexValue? h1
  let b ← hexValue? h2
  let c ← hexValue? h3
  let d ← hexValue? h4
  pure (((a * 16 + b) * 16 + c) * 16 + d)

/-- The first byte of four that is no hexadecimal digit. -/
def firstNonHex : List UInt8 → Option UInt8
  | [] => none
  | b :: rest => if (hexValue? b).isSome then firstNonHex rest else some b

/-- Where a string's escapes went wrong. -/
def escapeContext : String := "in \\u hexadecimal character escape"

/-- Reads the rest of a string after its opening quote. `raw` gathers bytes not yet decoded
(newest first) and `acc` the characters so far (newest first). -/
def readString (raw : List UInt8) (acc : List Char) (bs : List UInt8) :
    Except SyntaxError (String × List UInt8) :=
  match _h : bs with
  | [] => .error .unexpectedEnd
  | b :: rest =>
    let flush := (Utf8.decode raw.reverse).reverse ++ acc
    if b == 0x22 then .ok (String.ofList flush.reverse, rest)
    else if b == 0x5C then
      match _h1 : rest with
      | [] => .error .unexpectedEnd
      | e :: afterEscape =>
        if e == 0x75 then
          match _h2 : afterEscape with
          | x1 :: x2 :: x3 :: x4 :: afterUnit =>
            match hex4? x1 x2 x3 x4 with
            | none =>
              .error (.invalidChar ((firstNonHex [x1, x2, x3, x4]).getD 0) escapeContext)
            | some u =>
              if 0xD800 ≤ u && u < 0xDC00 then
                match _h3 : afterUnit with
                | q1 :: q2 :: l1 :: l2 :: l3 :: l4 :: afterPair =>
                  match q1 == 0x5C && q2 == 0x75, hex4? l1 l2 l3 l4 with
                  | true, some v =>
                    if 0xDC00 ≤ v && v < 0xE000 then
                      readString [] (Char.ofNat (0x10000 + (u - 0xD800) * 0x400 + (v - 0xDC00))
                        :: flush) afterPair
                    else readString [] (Utf8.replacement :: flush) afterUnit
                  | _, _ => readString [] (Utf8.replacement :: flush) afterUnit
                | _ => readString [] (Utf8.replacement :: flush) afterUnit
              else if 0xDC00 ≤ u && u < 0xE000 then
                readString [] (Utf8.replacement :: flush) afterUnit
              else readString [] (Char.ofNat u :: flush) afterUnit
          | short =>
            match firstNonHex short with
            | some bad => .error (.invalidChar bad escapeContext)
            | none => .error .unexpectedEnd
        else
          let c? : Option Char :=
            if e == 0x22 then some '"' else if e == 0x5C then some '\\'
            else if e == 0x2F then some '/' else if e == 0x62 then some (Char.ofNat 8)
            else if e == 0x66 then some (Char.ofNat 12) else if e == 0x6E then some '\n'
            else if e == 0x72 then some '\r' else if e == 0x74 then some '\t' else none
          match c? with
          | some c => readString [] (c :: flush) afterEscape
          | none => .error (.invalidChar e "in string escape code")
    else if b < 0x20 then .error (.invalidChar b "in string literal")
    else readString (b :: raw) acc rest
termination_by bs.length
decreasing_by all_goals (subst_vars; simp; try omega)

/-- Reads the digits at the front. -/
def spanDigits : List UInt8 → List UInt8 × List UInt8
  | [] => ([], [])
  | b :: rest =>
    if isDigit b then
      let (ds, r) := spanDigits rest
      (b :: ds, r)
    else ([], b :: rest)

/-- Reads the fraction and exponent of a number after its integer part. -/
def readNumberTail (intPart : List UInt8) (bs : List UInt8) :
    Except SyntaxError (List UInt8 × List UInt8) :=
  let afterFrac : Except SyntaxError (List UInt8 × List UInt8) :=
    match bs with
    | 0x2E :: rest =>
      match rest with
      | [] => .error .unexpectedEnd
      | d :: _ =>
        if isDigit d then
          let (ds, r) := spanDigits rest
          .ok (intPart ++ 0x2E :: ds, r)
        else .error (.invalidChar d "after decimal point in numeric literal")
    | _ => .ok (intPart, bs)
  match afterFrac with
  | .error e => .error e
  | .ok (text, r) =>
    match r with
    | e :: rest =>
      if e == 0x65 || e == 0x45 then
        let (signPart, rest') : List UInt8 × List UInt8 :=
          match rest with
          | s :: r' => if s == 0x2B || s == 0x2D then ([s], r') else ([], rest)
          | [] => ([], [])
        match rest' with
        | [] => .error .unexpectedEnd
        | d :: _ =>
          if isDigit d then
            let (ds, r'') := spanDigits rest'
            .ok (text ++ e :: signPart ++ ds, r'')
          else .error (.invalidChar d "in exponent of numeric literal")
      else .ok (text, r)
    | [] => .ok (text, r)

/-- Reads a number starting at its first byte (a digit or a minus sign). -/
def readNumber (bs : List UInt8) : Except SyntaxError (Json × List UInt8) :=
  let (neg, rest) : List UInt8 × List UInt8 :=
    match bs with
    | 0x2D :: r => ([0x2D], r)
    | _ => ([], bs)
  let textOf (ds : List UInt8) : String := String.ofList (ds.map fun b => Char.ofNat b.toNat)
  match rest with
  | [] => .error .unexpectedEnd
  | d :: r =>
    if d == 0x30 then
      (readNumberTail (neg ++ [d]) r).map fun (t, r') => (.number (textOf t), r')
    else if isDigit d then
      let (ds, r') := spanDigits r
      (readNumberTail (neg ++ d :: ds) r').map fun (t, r'') => (.number (textOf t), r'')
    else .error (.invalidChar d "in numeric literal")

/-- Reads the rest of a literal (`true`, `false`, `null`) after its first byte. -/
def readLiteral (word : String) (expect : List UInt8) (value : Json) :
    List UInt8 → Except SyntaxError (Json × List UInt8)
  | bs =>
    match expect, bs with
    | [], rest => .ok (value, rest)
    | _ :: _, [] => .error .unexpectedEnd
    | e :: es, b :: rest =>
      if b == e then readLiteral word es value rest
      else .error (.invalidChar b
        ("in literal " ++ word ++ " (expecting " ++ SyntaxError.quoteByte e ++ ")"))

/-- The deepest nesting of arrays and objects a document may have. -/
def maxDepth : Nat := 10000

mutual

/-- Reads one value; `fuel` bounds the number of nested reads and `depth` counts open arrays
and objects. -/
def readValue (fuel depth : Nat) (bs : List UInt8) : Except SyntaxError (Json × List UInt8) :=
  match fuel with
  | 0 => .error .unexpectedEnd
  | fuel + 1 =>
    match skipBlanks bs with
    | [] => .error .unexpectedEnd
    | b :: rest =>
      if b == 0x7B then
        if depth + 1 > maxDepth then .error (.invalidChar b "exceeded max depth")
        else readObjectStart fuel (depth + 1) rest
      else if b == 0x5B then
        if depth + 1 > maxDepth then .error (.invalidChar b "exceeded max depth")
        else readArrayStart fuel (depth + 1) rest
      else if b == 0x22 then (readString [] [] rest).map fun (s, r) => (.string s, r)
      else if b == 0x2D || isDigit b then readNumber (b :: rest)
      else if b == 0x74 then readLiteral "true" [0x72, 0x75, 0x65] (.bool true) rest
      else if b == 0x66 then readLiteral "false" [0x61, 0x6C, 0x73, 0x65] (.bool false) rest
      else if b == 0x6E then readLiteral "null" [0x75, 0x6C, 0x6C] .null rest
      else .error (.invalidChar b "looking for beginning of value")

/-- Reads an array after its opening bracket. -/
def readArrayStart (fuel depth : Nat) (bs : List UInt8) : Except SyntaxError (Json × List UInt8) :=
  match fuel with
  | 0 => .error .unexpectedEnd
  | fuel + 1 =>
    match skipBlanks bs with
    | 0x5D :: rest => .ok (.array [], rest)
    | other => readArrayItems fuel depth [] other

/-- Reads array items from the next item on; `acc` holds the items so far, newest first. -/
def readArrayItems (fuel depth : Nat) (acc : List Json) (bs : List UInt8) :
    Except SyntaxError (Json × List UInt8) :=
  match fuel with
  | 0 => .error .unexpectedEnd
  | fuel + 1 =>
    match readValue fuel depth bs with
    | .error e => .error e
    | .ok (v, rest) =>
      match skipBlanks rest with
      | [] => .error .unexpectedEnd
      | b :: rest' =>
        if b == 0x2C then readArrayItems fuel depth (v :: acc) rest'
        else if b == 0x5D then .ok (.array (v :: acc).reverse, rest')
        else .error (.invalidChar b "after array element")

/-- Reads an object after its opening brace. -/
def readObjectStart (fuel depth : Nat) (bs : List UInt8) :
    Except SyntaxError (Json × List UInt8) :=
  match fuel with
  | 0 => .error .unexpectedEnd
  | fuel + 1 =>
    match skipBlanks bs with
    | 0x7D :: rest => .ok (.object [], rest)
    | other => readMembers fuel depth [] other

/-- Reads object members from the next key on; `acc` holds the members so far, newest first. -/
def readMembers (fuel depth : Nat) (acc : List (String × Json)) (bs : List UInt8) :
    Except SyntaxError (Json × List UInt8) :=
  match fuel with
  | 0 => .error .unexpectedEnd
  | fuel + 1 =>
    match skipBlanks bs with
    | [] => .error .unexpectedEnd
    | b :: rest =>
      if b != 0x22 then .error (.invalidChar b "looking for beginning of object key string")
      else
        match readString [] [] rest with
        | .error e => .error e
        | .ok (key, rest') =>
          match skipBlanks rest' with
          | [] => .error .unexpectedEnd
          | c :: rest'' =>
            if c != 0x3A then .error (.invalidChar c "after object key")
            else
              match readValue fuel depth rest'' with
              | .error e => .error e
              | .ok (v, r) =>
                match skipBlanks r with
                | [] => .error .unexpectedEnd
                | d :: r' =>
                  if d == 0x2C then readMembers fuel depth ((key, v) :: acc) r'
                  else if d == 0x7D then .ok (.object ((key, v) :: acc).reverse, r')
                  else .error (.invalidChar d "after object key:value pair")

end

/-- Reads a whole document from bytes. -/
def read (bs : List UInt8) : Except SyntaxError Json :=
  match readValue (2 * bs.length + 2) 0 bs with
  | .error e => .error e
  | .ok (v, rest) =>
    match skipBlanks rest with
    | [] => .ok v
    | b :: _ => .error (.invalidChar b "after top-level value")

/-- Reads a whole document from a text. -/
def readText (s : String) : Except SyntaxError Json := read (Utf8.encode s)

end Json

end DeliveryFleet
