import DeliveryFleet.Text.Utf8

/-!
# Topic filters

A filter matches a topic level by level (`accepts`): `+` stands for any one level, empty or not,
and `#` for whatever follows, the level it stands in included. A filter equal to the topic
matches it, and one with neither `+` nor `#` matches nothing else. The levels of a name are what
lies between its slashes (`levels`), so an empty name has one empty level.

Filters and topics are byte strings, as the client receives them, and the client compares them
byte for byte: a level is equal to another only when their bytes are.

A shared subscription `$share/<group>/<filter>` is delivered as its filter (`unshare`).
-/

namespace DeliveryFleet.Filter

/-- The byte of `/`, between levels. -/
def slash : UInt8 := 0x2F

/-- The level `+`, standing for any one level. -/
def plusLevel : List UInt8 := [0x2B]

/-- The level `#`, standing for the rest of the topic. -/
def hashLevel : List UInt8 := [0x23]

/-- The levels of a topic or filter. -/
def levels (s : List UInt8) : List (List UInt8) := s.splitOn slash

/-- Level-by-level matching of filter levels against topic levels. -/
def matchLevels : List (List UInt8) → List (List UInt8) → Bool
  | [], ts => ts.isEmpty
  | f :: fs, ts =>
    if f == hashLevel then true
    else match ts with
      | [] => false
      | t :: ts' => (f == plusLevel || f == t) && matchLevels fs ts'

/-- Whether a filter matches a topic. -/
def accepts (filter topic : List UInt8) : Bool :=
  filter == topic ||
    ((filter.any fun b => b == 0x2B || b == 0x23) && matchLevels (levels filter) (levels topic))

/-- The filter of a shared subscription, or the filter itself. -/
def unshare (filter : List UInt8) : List UInt8 :=
  if (Utf8.encode "$share/").isPrefixOf filter then
    match levels filter with
    | _ :: _ :: rest@(_ :: _) => [slash].intercalate rest
    | _ => filter
  else filter

end DeliveryFleet.Filter
