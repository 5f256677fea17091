/-!
# Kinds of telemetry

A robot publishes ten kinds of message, each on a topic ending in the kind's name (`Kind.name`).
`Kind.all` lists them in the order the fleet subscribes to them; `Kind.matchOrder` is the order in
which the router tries them: names with more levels first, so that `trip/state` is tried before
`trip`, then by name.
-/

namespace DeliveryFleet

/-- A kind of telemetry message. -/
inductive Kind where
  | location
  | battery
  | status
  | container
  | trip
  | tripState
  | qrCode
  | forceMove
  | warning
  | heartbeat
  deriving DecidableEq, Repr, Inhabited

namespace Kind

/-- The last levels of the topic a kind is published on. -/
def name : Kind → String
  | .location => "location"
  | .battery => "battery"
  | .status => "status"
  | .container => "container"
  | .trip => "trip"
  | .tripState => "trip/state"
  | .qrCode => "qr-code"
  | .forceMove => "force_move"
  | .warning => "warning"
  | .heartbeat => "heartbeat"

/-- Every kind, in subscription order. -/
def all : List Kind :=
  [.location, .battery, .status, .container, .trip, .tripState, .qrCode, .forceMove, .warning,
    .heartbeat]

/-- Every kind in the order the router tries them: more levels first, then by name. -/
def matchOrder : List Kind :=
  [.tripState, .battery, .container, .forceMove, .heartbeat, .location, .qrCode, .status, .trip,
    .warning]

/-- The kind of a name, if any. -/
def ofName? (s : String) : Option Kind := all.find? (·.name == s)

end Kind

end DeliveryFleet
