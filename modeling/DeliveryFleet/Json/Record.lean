import DeliveryFleet.Json.Read
import DeliveryFleet.Decimal.Read
import DeliveryFleet.Text.Fold

/-!
# Reading a document into a record

A record is read from a JSON object member by member, in document order (`Record.read`). A
member names a field when its key is the field's name up to case folding (`Fold.namesField`); a
member that names no field is skipped, and of two members naming one field the later wins.
`null` leaves a field as it was, except a field that may be absent, which it clears. A whole
document of `null` leaves the record as it was; any other document that is not an object is a
mismatch.

Each field says how a value is stored in it (`Slot`). A value of the wrong kind, or a number that
does not fit, is a `Mismatch`; the first one in document order is the one reported. It names the
record read from the whole document and the path to the value, keys as the document writes them
and items of lists by position: `json: cannot unmarshal number 1.5 into Go struct field
Options.limit of type int`, or, for an item of a list, `json: cannot unmarshal number into
Options.paths.0 of type string`.

A member holding a record of its own (`Field.nested`) may be absent: `null` clears it, and an
object read into an absent record starts from the record's zero value, not from its defaults.
-/

namespace DeliveryFleet

/-- A step from a value into one of its parts: a member of an object, by its key as the document
writes it, or an item of an array, by its position. -/
inductive PathStep where
  | member (key : String)
  | item (index : Nat)
  deriving Repr, BEq

/-- The text of a step in a path. -/
def PathStep.text : PathStep → String
  | .member key => key
  | .item index => toString index

/-- A value that does not fit the field it is read into. -/
structure Mismatch where
  /-- What was found: a JSON kind, or `number` and the literal for a number that does not fit. -/
  found : String
  /-- The name of the record read from the whole document. -/
  record : String
  /-- The way from the document to the value; empty for the document as a whole. -/
  path : List PathStep
  /-- The type the value is read as. -/
  expected : String
  deriving Repr, BEq

namespace Mismatch

/-- The wording of a mismatch: a value inside a record is named by the record and the path to it,
as a struct field unless the last step is an item of a list. -/
def message (m : Mismatch) : String :=
  let place := ".".intercalate (m.record :: m.path.map PathStep.text)
  match m.path.getLast? with
  | none => "json: cannot unmarshal " ++ m.found ++ " into Go value of type " ++ m.expected
  | some (.item _) =>
    "json: cannot unmarshal " ++ m.found ++ " into " ++ place ++ " of type " ++ m.expected
  | some (.member _) =>
    "json: cannot unmarshal " ++ m.found ++ " into Go struct field " ++ place ++ " of type " ++
      m.expected

end Mismatch

namespace Json

/-- The name of a value's kind. -/
def kindName : Json → String
  | .null => "null"
  | .bool _ => "bool"
  | .number _ => "number"
  | .string _ => "string"
  | .array _ => "array"
  | .object _ => "object"

end Json

/-- A value that does not fit a slot: the kind found and, when an item of a list is what does not
fit, the item's position and the type of the items. -/
structure Misfit where
  found : String
  item : Option (Nat × String) := none
  deriving Repr, BEq

/-- How a field stores a value: the result is the new content, or the misfit when the value does
not fit. -/
abbrev Slot (α : Type) := Json → α → Except Misfit α

namespace Slot

/-- A value of the wrong kind. -/
def wrongKind (j : Json) : Misfit := { found := j.kindName }

/-- A number that does not fit. -/
def badNumber (t : String) : Misfit := { found := "number " ++ t }

/-- A text field. -/
def text : Slot String
  | .string s, _ => .ok s
  | .null, old => .ok old
  | j, _ => .error (wrongKind j)

/-- A double field; a number beyond the largest double does not fit. -/
def float : Slot Float
  | .number t, _ => match Decimal.toFloat? t with
    | some x => .ok x
    | none => .error (badNumber t)
  | .null, old => .ok old
  | j, _ => .error (wrongKind j)

/-- A double field that may be absent; `null` makes it absent. -/
def optFloat : Slot (Option Float)
  | .number t, _ => match Decimal.toFloat? t with
    | some x => .ok (some x)
    | none => .error (badNumber t)
  | .null, _ => .ok none
  | j, _ => .error (wrongKind j)

/-- A flag that may be absent; `null` makes it absent. -/
def optFlag : Slot (Option Bool)
  | .bool b, _ => .ok (some b)
  | .null, _ => .ok none
  | j, _ => .error (wrongKind j)

/-- A flag. -/
def flag : Slot Bool
  | .bool b, _ => .ok b
  | .null, old => .ok old
  | j, _ => .error (wrongKind j)

/-- The integer of a literal with no fraction and no exponent within `[lo, hi]`. -/
def integerOf? (t : String) (lo hi : Int) : Option Int :=
  let cs := t.toList
  let (neg, ds) := match cs with
    | '-' :: rest => (true, rest)
    | _ => (false, cs)
  if ds.isEmpty || !ds.all Char.isDigit then none
  else
    let n : Int := (Decimal.natOfDigits ds : Int)
    let v := if neg then -n else n
    if lo ≤ v && v ≤ hi then some v else none

/-- A signed 64-bit integer field. -/
def int64 : Slot Int
  | .number t, _ => match integerOf? t (-9223372036854775808) 9223372036854775807 with
    | some v => .ok v
    | none => .error (badNumber t)
  | .null, old => .ok old
  | j, _ => .error (wrongKind j)

/-- An unsigned 32-bit integer field. -/
def uint32 : Slot Int
  | .number t, _ => match integerOf? t 0 4294967295 with
    | some v => .ok v
    | none => .error (badNumber t)
  | .null, old => .ok old
  | j, _ => .error (wrongKind j)

/-- The items of a list of texts, from position `i` on; an item `null` reads as empty text. -/
def textItems (i : Nat) : List Json → Except Misfit (List String)
  | [] => .ok []
  | j :: rest =>
    let here : Except Misfit String := match j with
      | .string s => .ok s
      | .null => .ok ""
      | other => .error { found := other.kindName, item := some (i, "string") }
    match here, textItems (i + 1) rest with
    | .error m, _ => .error m
    | .ok _, .error m => .error m
    | .ok s, .ok ss => .ok (s :: ss)

/-- A list of texts; `null` clears it. -/
def texts : Slot (List String)
  | .array items, _ => textItems 0 items
  | .null, _ => .ok []
  | j, _ => .error (wrongKind j)

end Slot

/-- A field of a record of type `σ`: its name, and how a value is stored in it, given the path
that leads to the value, the member's key as written included. -/
structure Field (σ : Type) where
  name : String
  store : List PathStep → Json → σ → Except Mismatch σ

namespace Field

/-- A field holding a `typeName`, reached through a getter and a setter and stored as `slot`
says. -/
def ofSlot (name typeName : String) (get : σ → α) (set : σ → α → σ) (slot : Slot α) :
    Field σ :=
  ⟨name, fun path j r =>
    match slot j (get r) with
    | .ok a => .ok (set r a)
    | .error m => match m.item with
      | none => .error ⟨m.found, "", path, typeName⟩
      | some (i, itemType) => .error ⟨m.found, "", path ++ [.item i], itemType⟩⟩

end Field

namespace Record

/-- The field a key names, if any. -/
def fieldOf? (fields : List (Field σ)) (key : String) : Option (Field σ) :=
  match fields.find? (·.name == key) with
  | some f => some f
  | none => fields.find? fun f => Fold.namesField key f.name

/-- Stores the members of an object in order; `path` leads to the object. -/
def storeMembers (fields : List (Field σ)) (path : List PathStep) :
    List (String × Json) → σ → Except Mismatch σ
  | [], r => .ok r
  | (k, v) :: rest, r =>
    match fieldOf? fields k with
    | none => storeMembers fields path rest r
    | some f =>
      match f.store (path ++ [.member k]) v r with
      | .ok r' => storeMembers fields path rest r'
      | .error m => .error m

/-- The short name of a qualified type name: what follows its last dot. -/
def shortName (qualified : String) : String := ((qualified.splitOn ".").getLast?).getD qualified

/-- Reads a document into a record of type `qualified`, starting from `init`. -/
def read (fields : List (Field σ)) (qualified : String) (init : σ) : Json → Except Mismatch σ
  | .null => .ok init
  | .object members =>
    match storeMembers fields [] members init with
    | .ok r => .ok r
    | .error m => .error { m with record := shortName qualified }
  | j => .error ⟨j.kindName, shortName qualified, [], qualified⟩

end Record

namespace Field

/-- A member that holds a record of its own of type `qualified`, or nothing (`null`). An object
read into it starts from the record there, or from `zero` when there is none. -/
def nested (name qualified : String) (fields : List (Field τ)) (zero : τ)
    (get : σ → Option τ) (set : σ → Option τ → σ) : Field σ :=
  ⟨name, fun path j r =>
    match j with
    | .null => .ok (set r none)
    | .object members =>
      (fun t => set r (some t)) <$> Record.storeMembers fields path members ((get r).getD zero)
    | other => .error ⟨other.kindName, "", path, qualified⟩⟩

end Field

end DeliveryFleet
