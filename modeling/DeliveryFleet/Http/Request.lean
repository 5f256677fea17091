import DeliveryFleet.Net.Url

/-!
# Request heads

A request is handed over as a method and a target, and read from the text
`METHOD TARGET HTTP/1.0`, a line end and an empty line (`RequestHead.read`), the way a server reads
a request head. A target may itself hold line ends, so the head may carry header fields: the
text after the last one's value is then ` HTTP/1.0`.

Reading the head checks, in this order and stopping at the first fault:

* the request line: three parts separated by blanks, a method that is a token, a version
  `HTTP/d.d`, and a target that reads as a URL (`Url.parse`; the target of `CONNECT` that is
  not a path is an authority);
* the header fields, up to the first empty line: no leading blank before the first field, a
  colon in each field, a name of token bytes (a blank keeps the name as written), a value of
  visible bytes, blanks and tabs; a line starting with a blank continues the field before it; a
  refused value is reported after the name in the form it is kept in;
* at most one `Host` field;
* from version 1.1 on, a single `Transfer-Encoding` of `chunked`;
* no two `Content-Length` values that differ, and a value that is a decimal number;
* no `Trailer` of a chunked request naming `Transfer-Encoding`, `Trailer` or `Content-Length`.

Field names are compared in their canonical form (`RequestHead.canonicalName`): the first letter
and each letter after `-` in upper case, the others in lower case.
-/

namespace DeliveryFleet

/-- The head of a request as served: its method and its target. -/
structure RequestHead where
  method : String
  url : Url
  deriving Repr

namespace RequestHead

/-- The lines of a text, each without its line end (`\n`, or `\r\n`); what follows the last
line end is no line. -/
def lines (bs : List UInt8) : List (List UInt8) :=
  let pieces := bs.splitOn 10
  (pieces.dropLast).map fun l => if l.getLast? == some 13 then l.dropLast else l

/-- Splits at the first occurrence of `b`, if any. -/
def cut (bs : List UInt8) (b : UInt8) : Option (List UInt8 × List UInt8) :=
  match bs.idxOf? b with
  | some i => some (bs.take i, bs.drop (i + 1))
  | none => none

/-- Whether a byte may stand in a token: a letter, a digit, or one of ``!#$%&'*+-.^_`|~``. -/
def isTokenByte (b : UInt8) : Bool :=
  let n := b.toNat
  (48 ≤ n && n ≤ 57) || (65 ≤ n && n ≤ 90) || (97 ≤ n && n ≤ 122) ||
    n == 39 || n == 96 ||
    "!#$%&*+-.^_|~".toList.contains (Char.ofNat n)

/-- Whether a byte may stand in a field value: a visible byte, a blank, a tab, or a byte
outside ASCII. -/
def isValueByte (b : UInt8) : Bool := b == 9 || (32 ≤ b && b ≤ 126) || b ≥ 128

/-- Whether a byte is a blank or a tab. -/
def isBlank (b : UInt8) : Bool := b == 32 || b == 9

/-- Drops blanks and tabs at both ends. -/
def trim (bs : List UInt8) : List UInt8 :=
  ((bs.dropWhile isBlank).reverse.dropWhile isBlank).reverse

/-- Drops blanks, tabs and line ends at both ends. -/
def trimSpace (bs : List UInt8) : List UInt8 :=
  let sp (b : UInt8) : Bool := isBlank b || b == 10 || b == 13
  ((bs.dropWhile sp).reverse.dropWhile sp).reverse

/-- A byte string as text (it is read as UTF-8). -/
def text (bs : List UInt8) : String := Utf8.decodeString bs

/-- The canonical form of a field name of token bytes: upper case at the start and after each
`-`, lower case elsewhere. -/
def canonicalName (name : List UInt8) : List UInt8 :=
  (name.foldl (fun (acc : List UInt8 × Bool) b =>
    let (out, upper) := acc
    let c :=
      if upper && 97 ≤ b && b ≤ 122 then b - 32
      else if !upper && 65 ≤ b && b ≤ 90 then b + 32
      else b
    (out ++ [c], c == 45)) ([], true)).1

/-- A field name as it is kept: canonical when it is all token bytes, as written when it holds a
blank, and refused when empty or holding another byte. -/
def fieldName? (name : List UInt8) : Option (List UInt8) :=
  if name.isEmpty then none
  else if name.all isTokenByte then some (canonicalName name)
  else if name.all fun b => isTokenByte b || b == 32 then some name
  else none

/-- A list of byte strings written as `["a" "b"]`. -/
def quoteList (vs : List (List UInt8)) : String :=
  "[" ++ " ".intercalate (vs.map Quote.quoteBytes) ++ "]"

/-- The lines after a field's first line that continue it (they start with a blank or a tab),
and the lines after them. -/
def continuation (ls : List (List UInt8)) : List (List UInt8) × List (List UInt8) :=
  (ls.takeWhile fun l => l.head?.any isBlank, ls.dropWhile fun l => l.head?.any isBlank)

/-- Reads header fields from the lines after the request line, up to the first empty line:
each field's name and value, in order. -/
def readFields :
    (fuel : Nat) → List (List UInt8) → Except String (List (List UInt8 × List UInt8))
  | 0, _ => .ok []
  | _, [] => .ok []
  | fuel + 1, line :: more =>
    if line.isEmpty then .ok []
    else if !line.contains 58 then
      .error ("malformed MIME header: missing colon: " ++ Quote.quoteBytes line)
    else
      let (conts, after) := continuation more
      let kv := trim line ++ conts.flatMap fun c => 32 :: trim c
      match cut kv 58 with
      | none => .error ("malformed MIME header line: " ++ Quote.quoteBytes kv)
      | some (name, value) =>
        match fieldName? name with
        | none => .error ("malformed MIME header line: " ++ Quote.quoteBytes kv)
        | some key =>
          -- the name is already in its kept form when the value is refused
          if !value.all isValueByte then
            .error ("malformed MIME header line: " ++ Quote.quoteBytes (key ++ 58 :: value))
          else
            (fun rest => (key, value.dropWhile isBlank) :: rest) <$> readFields fuel after

/-- The values of a field, in order. -/
def valuesOf (fields : List (List UInt8 × List UInt8)) (name : String) : List (List UInt8) :=
  (fields.filter (·.1 == name.toUTF8.toList)).map (·.2)

/-- Reads a version `HTTP/d.d` into its two numbers. -/
def version? (v : List UInt8) : Option (Nat × Nat) :=
  let isDigit (b : UInt8) : Bool := 48 ≤ b && b ≤ 57
  match v with
  | [72, 84, 84, 80, 47, a, 46, b] =>
    if isDigit a && isDigit b then some (a.toNat - 48, b.toNat - 48) else none
  | _ => none

/-- The names a chunked request may not list as its trailer. -/
def forbiddenTrailer (key : List UInt8) : Bool :=
  key == "Transfer-Encoding".toUTF8.toList || key == "Trailer".toUTF8.toList ||
    key == "Content-Length".toUTF8.toList

/-- The names a `Trailer` value lists: its comma-separated parts, trimmed, the empty ones left
out, in canonical form when they are all token bytes. -/
def trailerNames (value : List UInt8) : List (List UInt8) :=
  ((value.splitOn 44).map trimSpace).filter (!·.isEmpty) |>.map fun k =>
    if k.all isTokenByte then canonicalName k else k

/-- Checks how the body of a request is framed: the transfer coding, the declared length and
the trailer. -/
def checkFraming (fields : List (List UInt8 × List UInt8)) (major minor : Nat) :
    Except String Unit := do
  let (major, minor) := if major == 0 && minor == 0 then (1, 1) else (major, minor)
  let codings := valuesOf fields "Transfer-Encoding"
  let atLeast11 := major > 1 || (major == 1 && minor ≥ 1)
  let chunked ← if codings.isEmpty || !atLeast11 then pure false
    else if codings.length != 1 then throw ("too many transfer encodings: " ++ quoteList codings)
    else if (codings.headD []).map (fun b => if 65 ≤ b && b ≤ 90 then b + 32 else b) !=
        "chunked".toUTF8.toList then
      throw ("unsupported transfer encoding: " ++ Quote.quoteBytes (codings.headD []))
    else pure true
  let lengths := if chunked then [] else valuesOf fields "Content-Length"
  match lengths with
  | [] => pure ()
  | first :: others =>
    if others.any fun l => trimSpace l != trimSpace first then
      throw ("http: message cannot contain multiple Content-Length headers; got " ++
        quoteList lengths)
    let cl := trimSpace first
    if cl.isEmpty then throw "invalid empty Content-Length \"\""
    if !cl.all (fun b => 48 ≤ b && b ≤ 57) ||
        cl.foldl (fun n b => 10 * n + (b.toNat - 48)) 0 ≥ 9223372036854775808 then
      throw ("bad Content-Length " ++ Quote.quoteBytes cl)
  if chunked then
    match ((valuesOf fields "Trailer").flatMap trailerNames).find? forbiddenTrailer with
    | some key => throw ("bad trailer key " ++ Quote.quoteBytes key)
    | none => pure ()

/-- Reads the head of a request made of a method and a target; a failure is the reason the head
does not read. -/
def read (method target : String) : Except String RequestHead := do
  let head := (method ++ " " ++ target ++ " HTTP/1.0\r\n\r\n").toUTF8.toList
  let ls := lines head
  let line := ls.headD []
  let rest := ls.drop 1
  let some (m, afterMethod) := cut line 32
    | throw ("malformed HTTP request " ++ Quote.quoteBytes line)
  let some (uri, proto) := cut afterMethod 32
    | throw ("malformed HTTP request " ++ Quote.quoteBytes line)
  if m.isEmpty || !m.all isTokenByte then throw ("invalid method " ++ Quote.quoteBytes m)
  let some (major, minor) := (if proto == "HTTP/1.1".toUTF8.toList then some (1, 1)
      else if proto == "HTTP/1.0".toUTF8.toList then some (1, 0) else version? proto)
    | throw ("malformed HTTP version " ++ Quote.quoteBytes proto)
  let justAuthority := m == "CONNECT".toUTF8.toList && uri.head? != some 47
  let raw := if justAuthority then "http://".toUTF8.toList ++ uri else uri
  let url ← match Url.parse raw true with
    | .ok u => pure (if justAuthority then { u with scheme := "" } else u)
    | .error e => throw (UrlError.message raw e)
  match rest with
  | first :: _ =>
    if first.head?.any isBlank then
      if first.length > 80 then throw "message too large"
      throw ("malformed MIME header initial line: " ++ Quote.quoteBytes first)
  | [] => pure ()
  let fields ← readFields rest.length rest
  if (valuesOf fields "Host").length > 1 then throw "too many Host headers"
  checkFraming fields major minor
  pure ⟨text m, url⟩

end RequestHead

end DeliveryFleet
