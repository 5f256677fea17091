import Std.Data.TreeMap
import DeliveryFleet.Json.Value

/-!
# Counters

What the fleet counts (`Counters`): routed messages by kind and result, write-through outcomes,
pickup outcomes by operation and status, liveness evictions, and the number of robots found
alive by the last sweep. A `Tally` counts occurrences of labels; a label that never occurred is
absent.
-/

namespace DeliveryFleet

/-- Occurrences by label. -/
abbrev Tally := Std.TreeMap String Nat compare

/-- Counts one more occurrence of a label. -/
def Tally.bump (t : Tally) (label : String) : Tally :=
  t.insert label ((t.getD label 0) + 1)

/-- A tally as a JSON object from label to count. -/
def Tally.toJson (t : Tally) : Json :=
  .object (t.toList.map fun (k, n) => (k, Json.ofNat n))

/-- Everything the fleet counts. -/
structure Counters where
  messages : Tally := {}
  writeThrough : Tally := {}
  pickup : Tally := {}
  evictions : Nat := 0
  robotsAlive : Nat := 0

/-- The counters as JSON. -/
def Counters.toJson (c : Counters) : Json :=
  .object [("messages", c.messages.toJson), ("writethrough", c.writeThrough.toJson),
    ("pickup", c.pickup.toJson), ("evictions", Json.ofNat c.evictions),
    ("robotsAlive", Json.ofNat c.robotsAlive)]

end DeliveryFleet
