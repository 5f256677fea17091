import DeliveryFleet.Text.Printable
import DeliveryFleet.Text.Utf8

/-!
# Quoted text in messages

Messages quote the text they complain about (`Quote.quote`): in double quotes, with a backslash
before `"` and `\`, the short escapes `\a \b \f \n \r \t \v` for those controls, `\xXX` for the
other ASCII controls and DEL, and `\uXXXX` (`\UXXXXXXXX` beyond the first 65536 code points)
for the other characters that do not print (`Printable.prints`). Every other character stands
for itself. Bytes are quoted as the text they read as (`Quote.quoteBytes`), a byte that starts no
well-formed UTF-8 sequence written `\xXX`.
-/

namespace DeliveryFleet.Quote

/-- Hexadecimal digits of `n`, `width` of them, lower case. -/
def hex (width n : Nat) : List Char :=
  (List.range width).reverse.map fun i => "0123456789abcdef".toList.getD ((n / Nat.pow 16 i) % 16) '0'

/-- The escape of one character inside a quoted text. -/
def escapeChar (c : Char) : List Char :=
  let n := c.toNat
  if c == '"' then ['\\', '"']
  else if c == '\\' then ['\\', '\\']
  else if n == 7 then ['\\', 'a'] else if n == 8 then ['\\', 'b']
  else if n == 12 then ['\\', 'f'] else if n == 10 then ['\\', 'n']
  else if n == 13 then ['\\', 'r'] else if n == 9 then ['\\', 't']
  else if n == 11 then ['\\', 'v']
  else if n < 0x20 || n == 0x7F then '\\' :: 'x' :: hex 2 n
  else if Printable.prints c then [c]
  else if n < 0x10000 then '\\' :: 'u' :: hex 4 n
  else '\\' :: 'U' :: hex 8 n

/-- A text in double quotes, escaped. -/
def quote (s : String) : String := String.ofList ('"' :: s.toList.flatMap escapeChar ++ ['"'])

/-- A byte sequence in double quotes, escaped: each stray byte as `\xXX`. -/
def quoteBytes (bs : List UInt8) : String :=
  String.ofList ('"' :: (Utf8.pieces bs).flatMap (fun
    | .char c => escapeChar c
    | .stray b => '\\' :: 'x' :: hex 2 b.toNat) ++ ['"'])

end DeliveryFleet.Quote
