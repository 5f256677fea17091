import DeliveryFleet.Text.Quote

/-!
# IP addresses

`IpAddr.parse` reads the text of an IP address, as bytes. The first `.`, `:` or `%` in the text
decides how it is read:

* `.`: IPv4, four decimal octets of at most 255, separated by single dots, with no leading zero;
* `:`: IPv6, up to eight hexadecimal groups of at most four digits separated by colons, with at
  most one `::` standing for one or more groups of zeros, possibly an IPv4 address in place of
  the last two groups, and possibly a zone after `%`, which must not be empty;
* `%` first, or none of them: no address.

A text that is no address gives an `AddrError`: the reason, and for some reasons the part of
the text where reading stopped, worded `ParseAddr("1::2::3"): multiple :: in address (at ":3")`.
-/

namespace DeliveryFleet

/-- An IP address: four octets, or eight 16-bit groups and a zone (empty for none). -/
inductive IpAddr where
  | v4 (octets : List Nat)
  | v6 (groups : List Nat) (zone : List UInt8)
  deriving Repr, BEq

/-- Why a text is not an IP address. -/
structure AddrError where
  /-- The whole text. -/
  input : List UInt8
  reason : String
  /-- Where reading stopped, for the reasons that say so. -/
  rest : Option (List UInt8) := none
  deriving Repr, BEq

/-- The wording of a failure to read an IP address. -/
def AddrError.message (e : AddrError) : String :=
  "ParseAddr(" ++ Quote.quoteBytes e.input ++ "): " ++ e.reason ++
    match e.rest with
    | some r => " (at " ++ Quote.quoteBytes r ++ ")"
    | none => ""

namespace IpAddr

/-- Whether an address is an IPv4 address. -/
def isV4 : IpAddr → Bool
  | .v4 _ => true
  | .v6 _ _ => false

/-- The value of a hexadecimal digit byte. -/
def hexDigit? (b : UInt8) : Option Nat :=
  let n := b.toNat
  if 48 ≤ n && n ≤ 57 then some (n - 48)
  else if 97 ≤ n && n ≤ 102 then some (n - 87)
  else if 65 ≤ n && n ≤ 70 then some (n - 55)
  else none

/-- Reads dotted decimal octets from the bytes left, given the byte before them, the octet read
so far and its digit count, and the octets already complete; `input` is the whole text. -/
def v4Octets (input : List UInt8) : List UInt8 → Option UInt8 → Nat → Nat → List Nat →
    Except AddrError (List Nat)
  | [], _, val, _, done =>
    if done.length < 3 then .error { input, reason := "IPv4 address too short" }
    else .ok (done ++ [val])
  | c :: more, prev, val, digits, done =>
    if 48 ≤ c && c ≤ 57 then
      if digits == 1 && val == 0 then
        .error { input, reason := "IPv4 field has octet with leading zero" }
      else
        let v := val * 10 + (c.toNat - 48)
        if v > 255 then .error { input, reason := "IPv4 field has value >255" }
        else v4Octets input more (some c) v (digits + 1) done
    else if c == 46 then
      if prev.isNone || more.isEmpty || prev == some 46 then
        .error { input, reason := "IPv4 field must have at least one digit",
                 rest := some (c :: more) }
      else if done.length == 3 then .error { input, reason := "IPv4 address too long" }
      else v4Octets input more (some c) 0 0 (done ++ [val])
    else .error { input, reason := "unexpected character", rest := some (c :: more) }

/-- Reads the hexadecimal digits of a group at the front: their value, their count and the rest;
a fifth digit fails, naming the group (`start`). -/
def hexGroup (input start : List UInt8) : List UInt8 → Nat → Nat →
    Except AddrError (Nat × Nat × List UInt8)
  | [], acc, n => .ok (acc, n, [])
  | c :: more, acc, n =>
    match hexDigit? c with
    | none => .ok (acc, n, c :: more)
    | some d =>
      if n ≥ 4 then
        .error { input, reason := "each group must have 4 or less digits", rest := some start }
      else hexGroup input start more (acc * 16 + d) (n + 1)

/-- What reading IPv6 groups leaves: the bytes not read, the number of bytes the groups fill,
where a `::` stands (in bytes), and the groups. -/
structure V6Progress where
  rest : List UInt8
  filled : Nat
  gap : Option Nat
  groups : List Nat

/-- Reads IPv6 groups while fewer than sixteen bytes are filled (`fuel` bounds the rounds, each
filling at least two bytes). -/
def v6Groups (input : List UInt8) : Nat → V6Progress → Except AddrError V6Progress
  | 0, p => .ok p
  | fuel + 1, p =>
    if p.filled ≥ 16 then .ok p
    else
      match hexGroup input p.rest p.rest 0 0 with
      | .error e => .error e
      | .ok (acc, n, rest) =>
        if n == 0 then
          .error { input, reason := "each colon-separated field must have at least one digit",
                   rest := some p.rest }
        else if rest.head? == some 46 then
          if p.gap.isNone && p.filled != 12 then
            .error { input,
                     reason :=
                       "embedded IPv4 address must replace the final 2 fields of the address",
                     rest := some p.rest }
          else if p.filled + 4 > 16 then
            .error { input,
                     reason :=
                       "too many hex fields to fit an embedded IPv4 at the end of the address",
                     rest := some p.rest }
          else
            match v4Octets input p.rest none 0 0 [] with
            | .error e => .error e
            | .ok os =>
              .ok ⟨[], p.filled + 4, p.gap,
                p.groups ++ [os.getD 0 0 * 256 + os.getD 1 0, os.getD 2 0 * 256 + os.getD 3 0]⟩
        else
          let filled := p.filled + 2
          let groups := p.groups ++ [acc]
          match rest with
          | [] => .ok ⟨[], filled, p.gap, groups⟩
          | c :: more =>
            if c != 58 then
              .error { input, reason := "unexpected character, want colon", rest := some rest }
            else
              match more with
              | [] =>
                .error { input, reason := "colon must be followed by more characters",
                         rest := some rest }
              | d :: more' =>
                if d == 58 then
                  if p.gap.isSome then
                    .error { input, reason := "multiple :: in address", rest := some more }
                  else if more'.isEmpty then .ok ⟨[], filled, some filled, groups⟩
                  else v6Groups input fuel ⟨more', filled, some filled, groups⟩
                else v6Groups input fuel ⟨more, filled, p.gap, groups⟩

/-- Reads an IPv6 address, with its zone. -/
def readV6 (input : List UInt8) : Except AddrError IpAddr :=
  let body := input.takeWhile (· != 37)
  let zone := (input.dropWhile (· != 37)).drop 1
  if input.contains 37 && zone.isEmpty then
    .error { input, reason := "zone must be a non-empty string" }
  else
    let start : V6Progress :=
      if body.take 2 == [58, 58] then ⟨body.drop 2, 0, some 0, []⟩ else ⟨body, 0, none, []⟩
    if start.gap.isSome && start.rest.isEmpty then .ok (.v6 (List.replicate 8 0) zone)
    else
      match v6Groups input 8 start with
      | .error e => .error e
      | .ok p =>
        if !p.rest.isEmpty then
          .error { input, reason := "trailing garbage after address", rest := some p.rest }
        else if p.filled < 16 then
          match p.gap with
          | none => .error { input, reason := "address string too short" }
          | some g =>
            .ok (.v6 (p.groups.take (g / 2) ++ List.replicate ((16 - p.filled) / 2) 0 ++
              p.groups.drop (g / 2)) zone)
        else if p.gap.isSome then
          .error { input, reason := "the :: must expand to at least one field of zeros" }
        else .ok (.v6 p.groups zone)

/-- Reads an IP address. -/
def parse (input : List UInt8) : Except AddrError IpAddr :=
  match input.find? fun b => b == 46 || b == 58 || b == 37 with
  | some 46 => IpAddr.v4 <$> v4Octets input input none 0 0 []
  | some 58 => readV6 input
  | some _ => .error { input, reason := "missing IPv6 address" }
  | none => .error { input, reason := "unable to parse IP" }

/-- Whether a text is an IP address. -/
def isAddress (s : String) : Bool :=
  match parse s.toUTF8.toList with
  | .ok _ => true
  | .error _ => false

end IpAddr

end DeliveryFleet
