import DeliveryFleet.Clock.Instant

/-!
# Reading RFC 3339 times

`Instant.parse` reads `YYYY-MM-DDThh:mm:ss[.fraction](Z|±hh:mm)`, field by field against the
pattern `2006-01-02T15:04:05.999999999Z07:00`, the way the service reads its configured start:
the year is four digits, the hour may have one digit, a fraction after the seconds is kept to
nine digits, and an offset moves the instant back by its amount. An offset hour above 24 or
minute above 60 is out of range even when the rest of the offset does not read.

A text that does not fit gives a `TimeError`, worded (`TimeError.message`) by the first field
that fails: `cannot parse "<rest>" as "<field>"`, a field out of range (`month`, `day`, `hour`,
...), or extra text after the offset.
-/

namespace DeliveryFleet

/-- Why a text is not an RFC 3339 time. -/
inductive TimeError where
  /-- The text from some point on does not fit a field of the pattern. -/
  | cannotParse (rest field : List Char)
  /-- A field holds a value out of its range. -/
  | outOfRange (what : String)
  /-- Text is left after the offset. -/
  | extraText (rest : List Char)
  deriving Repr, BEq

namespace TimeError

/-- The pattern times are read against. -/
def pattern : String := "2006-01-02T15:04:05.999999999Z07:00"

/-- A text in double quotes; bytes outside printable ASCII are written `\xNN`, and `"` and `\`
get a backslash. -/
def quoteText (s : String) : String :=
  let hex (n : Nat) : List Char :=
    ['\\', 'x', "0123456789abcdef".toList.getD (n / 16) '0',
      "0123456789abcdef".toList.getD (n % 16) '0']
  let body := s.toList.flatMap fun c =>
    if c.toNat < 0x20 || c.toNat ≥ 0x80 then
      (String.singleton c).toUTF8.toList.flatMap fun b => hex b.toNat
    else if c == '"' || c == '\\' then ['\\', c]
    else [c]
  String.ofList ('"' :: body ++ ['"'])

/-- The wording of a failure to read `value`. -/
def message (value : String) : TimeError → String
  | .cannotParse rest field =>
    "parsing time " ++ quoteText value ++ " as " ++ quoteText pattern ++ ": cannot parse " ++
      quoteText (String.ofList rest) ++ " as " ++ quoteText (String.ofList field)
  | .outOfRange what => "parsing time " ++ quoteText value ++ ": " ++ what ++ " out of range"
  | .extraText rest =>
    "parsing time " ++ quoteText value ++ ": extra text: " ++ quoteText (String.ofList rest)

end TimeError

namespace Instant

/-- A decimal digit at the front. -/
def digitAt? (cs : List Char) : Option Nat :=
  match cs with
  | c :: _ => if c.isDigit then some (c.toNat - 48) else none
  | [] => none

/-- A one- or two-digit number at the front (`fixed`: exactly two), and the rest. -/
def number? (cs : List Char) (fixed : Bool) : Option (Nat × List Char) :=
  match cs with
  | a :: rest =>
    if !a.isDigit then none
    else match rest with
      | b :: rest' =>
        if b.isDigit then some ((a.toNat - 48) * 10 + (b.toNat - 48), rest')
        else if fixed then none else some (a.toNat - 48, rest)
      | [] => if fixed then none else some (a.toNat - 48, [])
  | [] => none

/-- A decimal number filling the whole text, which has digits only. -/
def integer? (cs : List Char) : Option Int :=
  if cs.isEmpty || !cs.all Char.isDigit then none
  else some (cs.foldl (fun n c => 10 * n + (c.toNat - 48)) 0 : Nat)

/-- Skips a literal character of the pattern. -/
def literal (c : Char) (cs : List Char) : Except TimeError (List Char) :=
  match cs with
  | d :: rest => if d == c then .ok rest else .error (.cannotParse cs [c])
  | [] => .error (.cannotParse cs [c])

/-- Reads a fraction of a second after the seconds, if one is there. -/
def fractionOf (cs : List Char) : Nat × List Char :=
  match cs with
  | p :: d :: _ =>
    if (p == '.' || p == ',') && d.isDigit then
      let digits := (cs.drop 1).takeWhile Char.isDigit
      let kept := digits.take 9
      let ns := kept.foldl (fun n c => 10 * n + (c.toNat - 48)) 0
      (ns * Nat.pow 10 (9 - kept.length), (cs.drop 1).dropWhile Char.isDigit)
    else (0, cs)
  | _ => (0, cs)

/-- Reads the offset from UTC, in seconds east, and the rest. The hour and minute are read
before the sign is checked, and a value out of range wins over a field that does not read; of
two values out of range, the minute is the one reported. -/
def offsetOf (cs : List Char) : Except TimeError (Int × List Char) :=
  match cs with
  | 'Z' :: rest => .ok (0, rest)
  | _ =>
    if cs.length < 6 || cs.getD 3 ' ' != ':' then .error (.cannotParse cs "Z07:00".toList)
    else
      let sign := cs.getD 0 ' '
      let hr? := (number? (cs.drop 1 |>.take 2) true).map (·.1)
      let mm? := if hr?.isSome then (number? (cs.drop 4 |>.take 2) true).map (·.1) else none
      let hr := hr?.getD 0
      let mm := mm?.getD 0
      if mm > 60 then .error (.outOfRange "time zone offset minute")
      else if hr > 24 then .error (.outOfRange "time zone offset hour")
      else if mm?.isNone then .error (.cannotParse cs "Z07:00".toList)
      else
        let off : Int := ((hr * 60 + mm) * 60 : Nat)
        if sign == '+' then .ok (off, cs.drop 6)
        else if sign == '-' then .ok (-off, cs.drop 6)
        else .error (.cannotParse cs "Z07:00".toList)

/-- Reads an RFC 3339 time. -/
def parseChars (cs : List Char) : Except TimeError Instant := do
  if cs.length < 4 then throw (.cannotParse cs "2006".toList)
  let year ← match integer? (cs.take 4) with
    | some y => pure y
    | none => throw (.cannotParse cs "2006".toList)
  let cs ← literal '-' (cs.drop 4)
  let (month, cs) ← match number? cs true with
    | some r => pure r
    | none => throw (.cannotParse cs "01".toList)
  if month == 0 || month > 12 then throw (.outOfRange "month")
  let cs ← literal '-' cs
  let (day, cs) ← match number? cs true with
    | some r => pure r
    | none => throw (.cannotParse cs "02".toList)
  let cs ← literal 'T' cs
  let (hour, cs) ← match number? cs false with
    | some r => pure r
    | none => throw (.cannotParse cs "15".toList)
  if hour ≥ 24 then throw (.outOfRange "hour")
  let cs ← literal ':' cs
  let (minute, cs) ← match number? cs true with
    | some r => pure r
    | none => throw (.cannotParse cs "04".toList)
  if minute ≥ 60 then throw (.outOfRange "minute")
  let cs ← literal ':' cs
  let (second, cs) ← match number? cs true with
    | some r => pure r
    | none => throw (.cannotParse cs "05".toList)
  if second ≥ 60 then throw (.outOfRange "second")
  let (ns, cs) := fractionOf cs
  let (offset, cs) ← offsetOf cs
  if !cs.isEmpty then throw (.extraText cs)
  if day < 1 || day > daysIn month year then throw (.outOfRange "day")
  pure ((ofCivil year month day hour minute second ns).add (-offset * nanosPerSecond))

/-- Reads an RFC 3339 time from a text. -/
def parse (s : String) : Except TimeError Instant := parseChars s.toList

end Instant

end DeliveryFleet
