import DeliveryFleet.Net.IpAddr

/-!
# Listening addresses

An address is `host:port` (`Address.split`): the port follows the last colon; a host holding
colons must stand in brackets (`[::1]:80`). An address that does not split is refused with the
reason (`missing port in address`, `too many colons in address`, ...), prefixed by the address
itself when it is not empty.

A host must be empty or an IP address (`IpAddr.parse`), an IPv6 address possibly with a zone. A
port is a decimal number, possibly signed, from 0 to 65535. `Address.check` gives the first
complaint.
-/

namespace DeliveryFleet.Address

/-- Why an address does not split into host and port. -/
inductive SplitError where
  | missingPort
  | tooManyColons
  | missingBracket
  | unexpectedOpen
  | unexpectedClose
  deriving Repr, BEq

/-- The reason, as worded in messages. -/
def SplitError.reason : SplitError → String
  | .missingPort => "missing port in address"
  | .tooManyColons => "too many colons in address"
  | .missingBracket => "missing ']' in address"
  | .unexpectedOpen => "unexpected '[' in address"
  | .unexpectedClose => "unexpected ']' in address"

/-- The position of the last occurrence of `c`, if any. -/
def lastIndex (cs : List Char) (c : Char) : Option Nat :=
  (cs.zipIdx.filter (·.1 == c)).getLast?.map (·.2)

/-- The position of the first occurrence of `c`, if any. -/
def firstIndex (cs : List Char) (c : Char) : Option Nat := cs.idxOf? c

/-- Splits an address into host and port. -/
def split (addr : String) : Except SplitError (String × String) :=
  let cs := addr.toList
  match lastIndex cs ':' with
  | none => .error .missingPort
  | some i =>
    let bracketed : Except SplitError (List Char × Nat × Nat) :=
      if cs.head? == some '[' then
        match firstIndex cs ']' with
        | none => .error .missingBracket
        | some e =>
          if e + 1 == cs.length then .error .missingPort
          else if e + 1 == i then .ok ((cs.take e).drop 1, 1, e + 1)
          else if cs.getD (e + 1) ' ' == ':' then .error .tooManyColons
          else .error .missingPort
      else
        let host := cs.take i
        if host.contains ':' then .error .tooManyColons else .ok (host, 0, 0)
    match bracketed with
    | .error e => .error e
    | .ok (host, j, k) =>
      if (cs.drop j).contains '[' then .error .unexpectedOpen
      else if (cs.drop k).contains ']' then .error .unexpectedClose
      else .ok (String.ofList host, String.ofList (cs.drop (i + 1)))

/-- A decimal digit. -/
def isDigit (c : Char) : Bool := '0' ≤ c && c ≤ '9'

/-- The value of a string of decimal digits. -/
def decimalValue (ds : List Char) : Nat := ds.foldl (fun n c => 10 * n + (c.toNat - 48)) 0

/-- A port: a decimal number, possibly signed, from 0 to 65535. -/
def portValue? (port : String) : Option Int :=
  let (neg, ds) := match port.toList with
    | '+' :: rest => (false, rest)
    | '-' :: rest => (true, rest)
    | cs => (false, cs)
  if ds.isEmpty || !ds.all isDigit then none
  else
    let v := decimalValue ds
    if v ≥ 9223372036854775808 then none else some (if neg then -(v : Int) else v)

/-- The first complaint about an address, if any. -/
def check (addr : String) : Option String :=
  match split addr with
  | .error e =>
    some ("invalid address " ++ Quote.quote addr ++ ": " ++
      (if addr.isEmpty then "" else "address " ++ addr ++ ": ") ++ e.reason)
  | .ok (host, port) =>
    if !host.isEmpty && !IpAddr.isAddress host then
      some ("invalid host " ++ Quote.quote host ++ " in address " ++ Quote.quote addr)
    else match portValue? port with
      | some p =>
        if p < 0 || p > 65535 then
          some ("invalid port " ++ Quote.quote port ++ " in address " ++ Quote.quote addr)
        else none
      | none => some ("invalid port " ++ Quote.quote port ++ " in address " ++ Quote.quote addr)

end DeliveryFleet.Address
