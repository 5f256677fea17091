import DeliveryFleet.Json.Value
import DeliveryFleet.Clock.Instant

/-!
# Durable rows

The rows the store keeps: one per robot (`RobotRow`), per container of a robot
(`ContainerRow`), per trip (`TripRow`), per order (`OrderRow`), and one per delivery of a pickup
code (`CodeRow`). Instants are kept in their stored form (`Instant.toStored`), so that the store
compares them as the numbers it holds; `storedJson` shows a stored instant, `null` for the zero
instant.
-/

namespace DeliveryFleet

/-- A stored instant as JSON: its RFC 3339 text, or `null` for the zero instant. -/
def storedJson (n : Int) : Json :=
  let t := Instant.ofStored n
  if t.isZero then .null else .string t.rfc3339

/-- The durable state of a robot. -/
structure RobotRow where
  code : String
  lat : Float := 0
  lon : Float := 0
  roomCode : String := ""
  battery : Float := 0
  status : String := ""
  online : Bool := false
  lastSeenAt : Int := 0
  updatedAt : Int := 0
  tripId : String := ""
  tripProgress : Float := 0
  tripStatus : String := ""
  qrCode : String := ""
  warning : String := ""
  deriving Repr, Inhabited

/-- The durable state of one container of a robot. -/
structure ContainerRow where
  robotCode : String
  containerCode : String
  status : String := ""
  updatedAt : Int := 0
  deriving Repr, Inhabited

/-- A trip: the robot that drives it, the container it fills, and its status. -/
structure TripRow where
  id : Nat
  tripCode : String
  robotCode : String
  containerCode : String
  status : String
  deriving Repr, Inhabited, BEq

/-- An order: the trip that carries it, its receiver's mail address, and its status. -/
structure OrderRow where
  id : Nat
  orderCode : String
  tripId : Int
  email : String
  status : String
  deriving Repr, Inhabited, BEq

/-- One delivery of a pickup code for an (order, trip) pair. -/
structure CodeRow where
  orderCode : String
  tripCode : String
  code : String
  email : String
  createdAt : Int
  expiresAt : Int
  verified : Bool := false
  verifiedAt : Option Int := none
  deriving Repr, Inhabited, BEq

/-- The status a finished order or trip carries. -/
def completedStatus : String := "COMPLETED"

/-- A trip is ready for pickup while it loads or once it has arrived. -/
def TripRow.readyForPickup (t : TripRow) : Bool :=
  t.status == "LOADING" || t.status == "FINISHED"

/-- A robot row as JSON. -/
def RobotRow.toJson (r : RobotRow) : Json :=
  .object [("code", .string r.code), ("lat", Json.ofFloat r.lat), ("lon", Json.ofFloat r.lon),
    ("roomCode", .string r.roomCode), ("battery", Json.ofFloat r.battery),
    ("status", .string r.status), ("online", .bool r.online),
    ("lastSeenAt", storedJson r.lastSeenAt), ("updatedAt", storedJson r.updatedAt),
    ("tripId", .string r.tripId), ("tripProgress", Json.ofFloat r.tripProgress),
    ("tripStatus", .string r.tripStatus), ("qrCode", .string r.qrCode),
    ("warning", .string r.warning)]

/-- A container row as JSON. -/
def ContainerRow.toJson (r : ContainerRow) : Json :=
  .object [("robotCode", .string r.robotCode), ("containerCode", .string r.containerCode),
    ("status", .string r.status), ("updatedAt", storedJson r.updatedAt)]

/-- A trip row as JSON. -/
def TripRow.toJson (r : TripRow) : Json :=
  .object [("id", Json.ofNat r.id), ("tripCode", .string r.tripCode),
    ("robotCode", .string r.robotCode), ("containerCode", .string r.containerCode),
    ("status", .string r.status)]

/-- An order row as JSON. -/
def OrderRow.toJson (r : OrderRow) : Json :=
  .object [("id", Json.ofNat r.id), ("orderCode", .string r.orderCode),
    ("tripId", Json.ofInt r.tripId), ("email", .string r.email), ("status", .string r.status)]

/-- The key code rows are listed by: the JSON text of their values in the order creation,
order, trip, code, address, expiry, verified, verification. -/
def CodeRow.sortKey (r : CodeRow) : String :=
  (Json.array [storedJson r.createdAt, .string r.orderCode, .string r.tripCode, .string r.code,
    .string r.email, storedJson r.expiresAt, .bool r.verified,
    Json.ofOption storedJson r.verifiedAt]).render

/-- A code row as JSON. -/
def CodeRow.toJson (r : CodeRow) : Json :=
  .object [("orderCode", .string r.orderCode), ("tripCode", .string r.tripCode),
    ("code", .string r.code), ("email", .string r.email),
    ("createdAt", storedJson r.createdAt), ("expiresAt", storedJson r.expiresAt),
    ("verified", .bool r.verified), ("verifiedAt", Json.ofOption storedJson r.verifiedAt)]

end DeliveryFleet
