/-!
# Base64

Reading the standard base64 alphabet with `=` padding (`Base64.decode`): four characters carry
three bytes, line breaks are skipped, and a final group of two or three characters is padded to
four. Bits left over in the last group are dropped. A character outside the alphabet, padding in
the wrong place, or text after the padding is an error at the offset of the byte that shows it.
-/

namespace DeliveryFleet.Base64

/-- The six bits a character of the alphabet stands for. -/
def sextet? (b : UInt8) : Option Nat :=
  let n := b.toNat
  if 65 ≤ n && n ≤ 90 then some (n - 65)
  else if 97 ≤ n && n ≤ 122 then some (n - 71)
  else if 48 ≤ n && n ≤ 57 then some (n + 4)
  else if n == 43 then some 62
  else if n == 47 then some 63
  else none

/-- Whether a byte is a line break. -/
def isBreak (b : UInt8) : Bool := b == 10 || b == 13

/-- The bytes a group of sextets carries: a full group of four gives three, a group of three gives
two, a group of two gives one. -/
def bytesOf (group : List Nat) : List UInt8 :=
  let v := group.foldl (fun acc s => acc * 64 + s) 0 * Nat.pow 64 (4 - group.length)
  let all := [UInt8.ofNat (v / 65536 % 256), UInt8.ofNat (v / 256 % 256), UInt8.ofNat (v % 256)]
  all.take (group.length - 1)

/-- Skips line breaks; answers the rest and how many were skipped. -/
def skipBreaks : List UInt8 → List UInt8 × Nat
  | b :: rest => if isBreak b then
      let (r, n) := skipBreaks rest
      (r, n + 1)
    else (b :: rest, 0)
  | [] => ([], 0)

/-- Decodes from offset `pos`, with `group` the sextets of the group begun so far; `total` is the
length of the whole input. -/
def decodeFrom (total : Nat) (group : List Nat) (pos : Nat) : List UInt8 → Except Nat (List UInt8)
  | [] => if group.isEmpty then .ok [] else .error (total - group.length)
  | b :: rest =>
    match sextet? b with
    | some s =>
      if group.length == 3 then
        (bytesOf (group ++ [s]) ++ ·) <$> decodeFrom total [] (pos + 1) rest
      else decodeFrom total (group ++ [s]) (pos + 1) rest
    | none =>
      if isBreak b then decodeFrom total group (pos + 1) rest
      else if b != 61 || group.length < 2 then .error pos
      else
        -- padding: a group of two needs a second `=`
        let after : Except Nat (List UInt8 × Nat) :=
          if group.length == 2 then
            let (r, n) := skipBreaks rest
            match r with
            | [] => .error total
            | c :: r' => if c == 61 then .ok (r', pos + 1 + n + 1) else .error (pos + n)
          else .ok (rest, pos + 1)
        match after with
        | .error e => .error e
        | .ok (r, p) =>
          let (r, n) := skipBreaks r
          if r.isEmpty then .ok (bytesOf group) else .error (p + n)

/-- Decodes base64 text; an error gives the offset of the offending byte. -/
def decode (s : String) : Except Nat (List UInt8) :=
  let bs := s.toUTF8.toList
  decodeFrom bs.length [] 0 bs

end DeliveryFleet.Base64
