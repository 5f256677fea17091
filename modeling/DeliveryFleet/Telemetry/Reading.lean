import DeliveryFleet.Json.Value

/-!
# Readings

What robots report about themselves: where they are (`Location`), their battery charge, their
operating status, the trip they drive (`TripState`), the QR code they show (`QrCode`), the last
warning they raised (`Warning`) and the state of each container (`ContainerState`). Each reading
has a JSON view (`toJson`) with the names robots use on the wire.
-/

namespace DeliveryFleet

/-- Where a robot is. -/
structure Location where
  lat : Float
  lon : Float
  roomCode : String
  deriving Repr, BEq, Inhabited

/-- The trip a robot drives and how far along it is. -/
structure TripState where
  tripId : String
  progress : Float
  status : String
  startPoint : String
  endPoint : String
  deriving Repr, BEq, Inhabited

/-- The QR code a robot shows. -/
structure QrCode where
  code : String
  status : String
  deriving Repr, BEq, Inhabited

/-- A warning a robot raised. -/
structure Warning where
  code : String
  message : String
  deriving Repr, BEq, Inhabited

/-- The state of one of a robot's containers. -/
structure ContainerState where
  containerCode : String
  status : String
  deriving Repr, BEq, Inhabited

/-- The warning code of a forced move. -/
def Warning.forceMoveCode : String := "FORCE_MOVE"

/-- A location as JSON. -/
def Location.toJson (v : Location) : Json :=
  .object [("lat", Json.ofFloat v.lat), ("lon", Json.ofFloat v.lon),
    ("roomCode", .string v.roomCode)]

/-- A battery charge as JSON. -/
def batteryJson (v : Float) : Json := .object [("battery", Json.ofFloat v)]

/-- A status as JSON. -/
def statusJson (v : String) : Json := .object [("status", .string v)]

/-- A trip state as JSON. -/
def TripState.toJson (v : TripState) : Json :=
  .object [("tripId", .string v.tripId), ("progress", Json.ofFloat v.progress),
    ("status", .string v.status), ("startPoint", .string v.startPoint),
    ("endPoint", .string v.endPoint)]

/-- A QR code as JSON. -/
def QrCode.toJson (v : QrCode) : Json :=
  .object [("qrCode", .string v.code), ("status", .string v.status)]

/-- A warning as JSON. -/
def Warning.toJson (v : Warning) : Json :=
  .object [("code", .string v.code), ("message", .string v.message)]

/-- A container state as JSON. -/
def ContainerState.toJson (v : ContainerState) : Json :=
  .object [("containerCode", .string v.containerCode), ("status", .string v.status)]

end DeliveryFleet
