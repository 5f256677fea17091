import Std.Data.TreeMap
import DeliveryFleet.Telemetry.Reading

/-!
# The telemetry cache

The cache keeps the latest reading of each kind per robot, and the latest state of each container
per robot and container code (`Cache`). Writing a reading replaces the one before it; a trip
status on its own (`Cache.putTripStatus`) keeps the rest of the cached trip when it names the same
trip, and otherwise starts a new one with only an id and a status.

`Cache.snapshot` gathers everything cached for one robot, its containers in code order.
-/

namespace DeliveryFleet

/-- A map from robot id. -/
abbrev ByRobot (α : Type) := Std.TreeMap String α compare

/-- The latest readings of every robot. -/
structure Cache where
  location : ByRobot Location := {}
  battery : ByRobot Float := {}
  status : ByRobot String := {}
  trip : ByRobot TripState := {}
  qrCode : ByRobot QrCode := {}
  warning : ByRobot Warning := {}
  containers : ByRobot (Std.TreeMap String ContainerState compare) := {}

namespace Cache

/-- The containers cached for a robot, by code. -/
def containersOf (c : Cache) (robot : String) : Std.TreeMap String ContainerState compare :=
  (c.containers.get? robot).getD {}

/-- The cached state of one container. -/
def container? (c : Cache) (robot code : String) : Option ContainerState :=
  (c.containersOf robot).get? code

/-- Caches a container state under the robot and the container's own code. -/
def putContainer (c : Cache) (robot : String) (v : ContainerState) : Cache :=
  { c with
    containers := c.containers.insert robot ((c.containersOf robot).insert v.containerCode v) }

/-- The trip after a status report: the cached trip with the new status when it has the same id,
otherwise a trip with only an id and a status. -/
def tripAfterStatus (old : Option TripState) (tripId status : String) : TripState :=
  match old with
  | some t =>
    if t.tripId == tripId then { t with status := status } else ⟨tripId, 0, status, "", ""⟩
  | none => ⟨tripId, 0, status, "", ""⟩

/-- Caches a trip status report. -/
def putTripStatus (c : Cache) (robot tripId status : String) : Cache :=
  { c with trip := c.trip.insert robot (tripAfterStatus (c.trip.get? robot) tripId status) }

/-- Everything cached for a robot, as JSON: absent readings are left out, containers are listed
in code order. -/
def snapshot (c : Cache) (robot : String) : List (String × Json) :=
  let field (name : String) (v : Option Json) : List (String × Json) :=
    match v with
    | some j => [(name, j)]
    | none => []
  let conts := (c.containersOf robot).values
  [("robotId", Json.string robot)] ++
  field "location" ((c.location.get? robot).map Location.toJson) ++
  field "battery" ((c.battery.get? robot).map batteryJson) ++
  field "status" ((c.status.get? robot).map statusJson) ++
  (if conts.isEmpty then [] else [("containers", .array (conts.map ContainerState.toJson))]) ++
  field "trip" ((c.trip.get? robot).map TripState.toJson) ++
  field "qrCode" ((c.qrCode.get? robot).map QrCode.toJson) ++
  field "warning" ((c.warning.get? robot).map Warning.toJson)

end Cache

end DeliveryFleet
