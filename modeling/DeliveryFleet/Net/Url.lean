import DeliveryFleet.Net.IpAddr

/-!
# URLs

A URL is read from its bytes (`Url.parse`) into a scheme, an opaque part or an authority (user
information and host) and a path, and a query; `Url.render` writes it back. The same reading
serves two purposes: references such as broker addresses (`Url.parseReference`, which also
allows a fragment after `#`) and the targets of HTTP requests (`viaRequest`), which must be
absolute paths, `*` or absolute URLs.

Reading refuses, in this order: a control byte anywhere; an empty target of a request; a colon
before any scheme letter; a request target that is not a path when there is no scheme; a
relative path whose first segment holds a colon; a malformed authority; a malformed `%` escape.
A scheme is letters, then letters, digits, `+`, `-` or `.`, ended by `:`, and is kept in lower
case. An authority follows `//` after a scheme (or, outside requests, at the start of a text that
does not start with `///`); what does not start with `/` after a scheme is opaque.

A host is checked by `Url.parseHost`: an opening bracket anywhere but at the start is refused
first; a host in brackets must be an IPv6 address, with a zone after `%25`; a port after the
last colon must be digits. Each
part allows its own set of bytes unescaped (`UrlPart.escapes`); a host allows `%` escapes only
for bytes outside ASCII, a zone only for bytes it could hold unescaped.
-/

namespace DeliveryFleet

/-- The parts of a URL, which differ in the bytes they write escaped. -/
inductive UrlPart where
  | host
  | zone
  | path
  | userinfo
  | fragment
  deriving Repr, BEq

/-- Whether a byte must be written escaped in a part of a URL: letters and digits never, `-_.~`
never, the marks `!$&()*+,;=:[]<>"` and the apostrophe not in a host or zone, the reserved
marks `$&+,/:;=?@` only as the part requires, and `!()*` not in a fragment; every other byte,
those outside ASCII included, is escaped. -/
def UrlPart.escapes (part : UrlPart) (c : UInt8) : Bool :=
  let n := c.toNat
  let ch := Char.ofNat n
  if (48 ≤ n && n ≤ 57) || (65 ≤ n && n ≤ 90) || (97 ≤ n && n ≤ 122) then false
  else if (part == .host || part == .zone) &&
      (n == 39 || "!$&()*+,;=:[]<>\"".toList.contains ch) then false
  else if "-_.~".toList.contains ch then false
  else if "$&+,/:;=?@".toList.contains ch then
    match part with
    | .path => ch == '?'
    | .userinfo => ch == '@' || ch == '/' || ch == '?' || ch == ':'
    | .fragment => false
    | _ => true
  else if part == .fragment && "!()*".toList.contains ch then false
  else true

/-- Why a text is not a URL. -/
inductive UrlError where
  | controlByte
  | empty
  | missingScheme
  | notForRequest
  | colonInFirstSegment
  | missingBracket
  | badPort (colonPort : List UInt8)
  | badEscape (escape : List UInt8)
  | badHostByte (b : UInt8)
  | badHost (e : AddrError)
  | ipLiteral
  | badUserinfo
  deriving Repr, BEq

/-- The reason, as worded in messages. -/
def UrlError.reason : UrlError → String
  | .controlByte => "net/url: invalid control character in URL"
  | .empty => "empty url"
  | .missingScheme => "missing protocol scheme"
  | .notForRequest => "invalid URI for request"
  | .colonInFirstSegment => "first path segment in URL cannot contain colon"
  | .missingBracket => "missing ']' in host"
  | .badPort p => "invalid port " ++ Quote.quoteBytes p ++ " after host"
  | .badEscape e => "invalid URL escape " ++ Quote.quoteBytes e
  | .badHostByte b => "invalid character " ++ Quote.quoteBytes [b] ++ " in host name"
  | .badHost e => "invalid host: " ++ e.message
  | .ipLiteral => "invalid IP-literal"
  | .badUserinfo => "net/url: invalid userinfo"

/-- A failure to read `text` as a URL: `parse "<text>": <reason>`. -/
def UrlError.message (text : List UInt8) (e : UrlError) : String :=
  "parse " ++ Quote.quoteBytes text ++ ": " ++ e.reason

/-- The user information of an authority: a name, and a password when a colon gives one. -/
structure Userinfo where
  username : List UInt8
  password : Option (List UInt8)
  deriving Repr, BEq

/-- A URL, its parts unescaped. A path `*` stands for the whole server. -/
structure Url where
  scheme : String := ""
  /-- What follows the scheme when it does not start with `/`. -/
  rootless : List UInt8 := []
  user : Option Userinfo := none
  host : List UInt8 := []
  path : List UInt8 := []
  /-- The text had a scheme and a path but no authority. -/
  omitHost : Bool := false
  /-- The text ended in its only `?`. -/
  forceQuery : Bool := false
  rawQuery : List UInt8 := []
  deriving Repr, BEq

namespace Url

/-- The position of the last occurrence of `b`, if any. -/
def lastIndex (bs : List UInt8) (b : UInt8) : Option Nat :=
  (bs.zipIdx.filter (·.1 == b)).getLast?.map (·.2)

/-- The position where `needle` first occurs in `bs`, if it does. -/
def indexOf? (bs needle : List UInt8) : Option Nat :=
  (List.range (bs.length + 1)).find? fun i => (bs.drop i).take needle.length == needle

/-- Checks the `%` escapes of a part: each `%` is followed by two hexadecimal digits; in a host
an escape stands for a byte outside ASCII or is `%25`, and in a zone it stands for `%`, a blank
or a byte a host may hold. In a host or zone each ASCII byte must be one a host may hold. -/
def checkEscapes (part : UrlPart) : List UInt8 → Except UrlError Unit
  | [] => .ok ()
  | 37 :: rest =>
    match rest with
    | a :: b :: more =>
      match IpAddr.hexDigit? a, IpAddr.hexDigit? b with
      | some x, some y =>
        let isPercent := a == 50 && b == 53
        if part == .host && x < 8 && !isPercent then .error (.badEscape [37, a, b])
        else if part == .zone && !isPercent && x * 16 + y != 32 &&
            UrlPart.host.escapes (UInt8.ofNat (x * 16 + y)) then .error (.badEscape [37, a, b])
        else checkEscapes part more
      | _, _ => .error (.badEscape [37, a, b])
    | _ => .error (.badEscape (37 :: rest))
  | c :: rest =>
    if (part == .host || part == .zone) && c < 128 && part.escapes c then .error (.badHostByte c)
    else checkEscapes part rest

/-- Replaces each `%` escape by the byte it stands for. -/
def percentDecode : List UInt8 → List UInt8
  | [] => []
  | 37 :: a :: b :: more =>
    match IpAddr.hexDigit? a, IpAddr.hexDigit? b with
    | some x, some y => UInt8.ofNat (16 * x + y) :: percentDecode more
    | _, _ => 37 :: a :: b :: percentDecode more
  | c :: rest => c :: percentDecode rest

/-- The bytes a part stands for, once its escapes are checked. -/
def unescape (part : UrlPart) (bs : List UInt8) : Except UrlError (List UInt8) :=
  (fun _ => percentDecode bs) <$> checkEscapes part bs

/-- The uppercase hexadecimal digit of a value below 16, as a byte. -/
def upperHex (n : Nat) : UInt8 := UInt8.ofNat ("0123456789ABCDEF".toList.getD n '0').toNat

/-- Writes a part, escaping the bytes it must not hold as `%XX`. -/
def escape (part : UrlPart) (bs : List UInt8) : List UInt8 :=
  bs.flatMap fun b =>
    if part.escapes b then [37, upperHex (b.toNat / 16), upperHex (b.toNat % 16)] else [b]

/-- A port after a host: empty, or a colon and digits. -/
def validOptionalPort : List UInt8 → Bool
  | [] => true
  | 58 :: ds => ds.all fun c => 48 ≤ c && c ≤ 57
  | _ => false

/-- Checks a host with its port and gives it unescaped. An opening bracket may only open the
host: one further on (a second one included) is no IP literal, whatever else is wrong. -/
def parseHost (host : List UInt8) : Except UrlError (List UInt8) :=
  if (lastIndex host 91).any (· > 0) then .error .ipLiteral
  else if host.head? == some 91 then
    match lastIndex host 93 with
    | none => .error .missingBracket
    | some close =>
      let colonPort := host.drop (close + 1)
      if !validOptionalPort colonPort then .error (.badPort colonPort)
      else do
        let port ← unescape .host colonPort
        let name := (host.take close).drop 1
        let plain ← match indexOf? name [37, 50, 53] with
          | some z => do
            let address ← unescape .host (name.take z)
            let zone ← unescape .zone (name.drop z)
            pure (address ++ zone)
          | none => unescape .host name
        match IpAddr.parse plain with
        | .error e => throw (.badHost e)
        | .ok a => if a.isV4 then throw .ipLiteral else pure ([91] ++ plain ++ [93] ++ port)
  else do
    match lastIndex host 58 with
    | some i =>
      let colonPort := host.drop i
      if !validOptionalPort colonPort then throw (.badPort colonPort)
    | none => pure ()
    unescape .host host

/-- Whether user information holds only letters, digits and the marks
`-._:~!$&()*+,;=%@` and the apostrophe. -/
def validUserinfo (bs : List UInt8) : Bool :=
  bs.all fun b =>
    let n := b.toNat
    (48 ≤ n && n ≤ 57) || (65 ≤ n && n ≤ 90) || (97 ≤ n && n ≤ 122) || n == 39 ||
      "-._:~!$&()*+,;=%@".toList.contains (Char.ofNat n)

/-- Reads an authority: user information before the last `@`, if any, and a host. -/
def parseAuthority (authority : List UInt8) : Except UrlError (Option Userinfo × List UInt8) :=
  match lastIndex authority 64 with
  | none => (fun h => (none, h)) <$> parseHost authority
  | some i => do
    let host ← parseHost (authority.drop (i + 1))
    let info := authority.take i
    if !validUserinfo info then throw .badUserinfo
    match info.idxOf? 58 with
    | none => pure (some ⟨← unescape .userinfo info, none⟩, host)
    | some j =>
      let name ← unescape .userinfo (info.take j)
      let password ← unescape .userinfo (info.drop (j + 1))
      pure (some ⟨name, some password⟩, host)

/-- Splits a scheme off the front: `none` when the text has no scheme. -/
def schemeSplit : List UInt8 → List UInt8 → Except UrlError (Option (List UInt8 × List UInt8))
  | _, [] => .ok none
  | acc, c :: rest =>
    if (65 ≤ c && c ≤ 90) || (97 ≤ c && c ≤ 122) then schemeSplit (c :: acc) rest
    else if (48 ≤ c && c ≤ 57) || c == 43 || c == 45 || c == 46 then
      if acc.isEmpty then .ok none else schemeSplit (c :: acc) rest
    else if c == 58 then
      if acc.isEmpty then .error .missingScheme else .ok (some (acc.reverse, rest))
    else .ok none

/-- A scheme's bytes as lower-case text. -/
def schemeText (bs : List UInt8) : String :=
  String.ofList (bs.map fun b => (Char.ofNat b.toNat).toLower)

/-- Reads a URL without a fragment; `viaRequest` reads it as the target of a request. -/
def parse (raw : List UInt8) (viaRequest : Bool) : Except UrlError Url := do
  if raw.any fun b => b < 32 || b == 127 then throw .controlByte
  if raw.isEmpty && viaRequest then throw .empty
  if raw == [42] then return { path := [42] }
  let (scheme, rest) := (← schemeSplit [] raw).getD ([], raw)
  let scheme := schemeText scheme
  let (rest, forceQuery, rawQuery) :=
    if rest.getLast? == some 63 && rest.count 63 == 1 then (rest.dropLast, true, [])
    else match rest.idxOf? 63 with
      | some i => (rest.take i, false, rest.drop (i + 1))
      | none => (rest, false, [])
  if rest.head? != some 47 then
    if !scheme.isEmpty then return { scheme, rootless := rest, forceQuery, rawQuery }
    if viaRequest then throw .notForRequest
    if (rest.takeWhile (· != 47)).contains 58 then throw .colonInFirstSegment
  if (!scheme.isEmpty || (!viaRequest && rest.take 3 != [47, 47, 47])) &&
      rest.take 2 == [47, 47] then
    let authority := (rest.drop 2).takeWhile (· != 47)
    let (user, host) ← parseAuthority authority
    let path ← unescape .path ((rest.drop 2).dropWhile (· != 47))
    return { scheme, user, host, path, forceQuery, rawQuery }
  let path ← unescape .path rest
  return { scheme, path, forceQuery, rawQuery,
           omitHost := !scheme.isEmpty && rest.head? == some 47 }

/-- Reads a URL reference: a URL, then possibly `#` and a fragment, whose escapes are checked.
A failure is worded with the text read: the URL before `#`, or the whole text for a fragment. -/
def parseReference (text : String) : Except String Url :=
  let raw := text.toUTF8.toList
  let beforeHash := raw.takeWhile (· != 35)
  let fragment := (raw.dropWhile (· != 35)).drop 1
  match parse beforeHash false with
  | .error e => .error (UrlError.message beforeHash e)
  | .ok u =>
    match checkEscapes .fragment fragment with
    | .error e => .error (UrlError.message raw e)
    | .ok () => .ok u

/-- The path written escaped; `*` stays as it is. -/
def escapedPath (u : Url) : List UInt8 :=
  if u.path == [42] then [42] else escape .path u.path

/-- User information written escaped. -/
def userText (ui : Userinfo) : List UInt8 :=
  escape .userinfo ui.username ++ match ui.password with
    | some p => 58 :: escape .userinfo p
    | none => []

/-- Writes a URL: `scheme:`, then the opaque part, or `//`, user information and host, and the
path escaped (after `./` when a first segment with a colon would be read as a scheme), then the
query. -/
def render (u : Url) : List UInt8 :=
  let schemePart : List UInt8 := if u.scheme.isEmpty then [] else u.scheme.toUTF8.toList ++ [58]
  let body : List UInt8 :=
    if !u.rootless.isEmpty then u.rootless
    else
      let authority : List UInt8 :=
        if (!u.scheme.isEmpty || !u.host.isEmpty || u.user.isSome) &&
            !(u.omitHost && u.host.isEmpty && u.user.isNone) then
          (if !u.host.isEmpty || !u.path.isEmpty || u.user.isSome then ([47, 47] : List UInt8)
            else []) ++
          (match u.user with
            | some ui => userText ui ++ [64]
            | none => []) ++
          escape .host u.host
        else []
      let path := u.escapedPath
      let slash : List UInt8 :=
        if !path.isEmpty && path.head? != some 47 && !u.host.isEmpty then [47] else []
      let dot : List UInt8 :=
        if (schemePart ++ authority ++ slash).isEmpty && (path.takeWhile (· != 47)).contains 58
        then [46, 47] else []
      authority ++ slash ++ dot ++ path
  schemePart ++ body ++ (if u.forceQuery || !u.rawQuery.isEmpty then 63 :: u.rawQuery else [])

end Url

end DeliveryFleet
