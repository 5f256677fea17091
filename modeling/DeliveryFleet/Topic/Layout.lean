import DeliveryFleet.Topic.Kind

/-!
# Topic layout

Every topic of the fleet starts with a root level (`Layout.root`): the configured root with `/`
trimmed from both ends, or `robot` when nothing is left. Below it come the robot id and the kind
for telemetry (`telemetry`), `+` in place of the robot for subscriptions (`wildcard`), and
`command/...` or `container/<code>/command/...` for commands. Levels are joined with `/` and
nothing is escaped, so an id holding `/` spans several levels.
-/

namespace DeliveryFleet.Layout

/-- The root level of all topics. -/
def root (configured : String) : String :=
  let trimmed := String.ofList ((configured.toList.dropWhile (· == '/')).reverse.dropWhile
    (· == '/')).reverse
  if trimmed.isEmpty then "robot" else trimmed

/-- Joins levels below the root. -/
def join (root : String) (levels : List String) : String :=
  root ++ "/" ++ "/".intercalate levels

/-- The topic a robot publishes a kind of telemetry on. -/
def telemetry (root robot kind : String) : String := join root [robot, kind]

/-- The filter for a kind of telemetry from every robot. -/
def wildcard (root kind : String) : String := join root ["+", kind]

/-- The filters the fleet subscribes to. -/
def subscriptions (root : String) : List String := Kind.all.map fun k => wildcard root k.name

/-- The topic of move commands to a robot. -/
def move (root robot : String) : String := join root [robot, "command", "move"]

/-- The topic of QR commands to a robot. -/
def qr (root robot : String) : String := join root [robot, "command", "qr"]

/-- The topic that unlocks a container for pickup. -/
def containerPickup (root robot container : String) : String :=
  join root [robot, "container", container, "command", "pickup"]

/-- The topic that opens a container for loading. -/
def containerLoad (root robot container : String) : String :=
  join root [robot, "container", container, "command", "load"]

end DeliveryFleet.Layout
