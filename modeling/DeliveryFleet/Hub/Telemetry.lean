import DeliveryFleet.Hub.Basic
import DeliveryFleet.Telemetry.Message
import DeliveryFleet.Text.Fold

/-!
# Telemetry through the hub

Readings land in the cache at once, mark their robot seen and schedule the write of its row
(`Hub.touch`). Reads answer from the cache, and only while the robot is alive (`Hub.reading?`);
each answered read schedules the row again, so that the durable row heals.

The liveness operations (`Hub.heartbeat`, `Hub.markOffline`, `Hub.markAllOffline`, `Hub.sweep`)
pass the robots that went offline to `Hub.wentOffline`.

A flush (`Hub.flush`) runs the newest waiting write of each row: a robot's row takes every cached
reading, whether the robot is alive now, and when it was last seen if it is tracked; a
container's row takes its cached status. Each write is counted a success or a failure.
-/

namespace DeliveryFleet

/-- A robot-level reading that can be read back. -/
inductive Reading where
  | location
  | battery
  | status
  | trip
  | qrCode
  | warning
  deriving Repr, BEq

/-- The reading a name stands for. -/
def Reading.ofName? : String → Option Reading
  | "location" => some .location
  | "battery" => some .battery
  | "status" => some .status
  | "trip" => some .trip
  | "qr-code" => some .qrCode
  | "warning" => some .warning
  | _ => none

namespace Hub

/-- Marks a robot seen and schedules its row. -/
def touch (h : Hub) (robot : String) : Hub :=
  ({ h with tracker := h.tracker.markSeen robot h.now }).scheduleRobot robot

/-- Changes the cache. -/
def withCache (h : Hub) (f : Cache → Cache) : Hub := { h with cache := f h.cache }

/-- Caches a container's state, marks its robot seen and schedules the container's row. -/
def putContainer (h : Hub) (robot : String) (v : ContainerState) : Hub :=
  let h := h.withCache (·.putContainer robot v)
  ({ h with tracker := h.tracker.markSeen robot h.now }).scheduleContainer robot v.containerCode

/-- Records what a robot says about its own liveness: a robot going away is marked offline at
once, one staying is marked seen. -/
def heartbeat (h : Hub) (robot : String) (alive : Bool) : Hub :=
  let h := { h with tracker := h.tracker.setSelfReported robot alive }
  if alive then h.touch robot
  else
    let (t, was) := h.tracker.markOffline robot
    ({ h with tracker := t }).wentOffline (if was then [robot] else [])

/-- Applies a validated message from a robot. -/
def apply (h : Hub) (robot : String) : Message → Hub
  | .location v =>
    (h.withCache fun c => { c with location := c.location.insert robot v }).touch robot
  | .battery b => (h.withCache fun c => { c with battery := c.battery.insert robot b }).touch robot
  | .status s => (h.withCache fun c => { c with status := c.status.insert robot s }).touch robot
  | .container v _ _ => h.putContainer robot v
  | .trip v => (h.withCache fun c => { c with trip := c.trip.insert robot v }).touch robot
  | .tripState id s => (h.withCache (·.putTripStatus robot id s)).touch robot
  | .qrCode v => (h.withCache fun c => { c with qrCode := c.qrCode.insert robot v }).touch robot
  | .forceMove reason =>
    (h.withCache fun c =>
      { c with warning := c.warning.insert robot ⟨Warning.forceMoveCode, reason⟩ }).touch robot
  | .warning v => (h.withCache fun c => { c with warning := c.warning.insert robot v }).touch robot
  | .heartbeat alive => h.heartbeat robot alive

/-- Whether a robot is alive now. -/
def isOnline (h : Hub) (robot : String) : Bool := h.tracker.isAlive robot h.now

/-- A cached reading as JSON, regardless of liveness. -/
def cached? (h : Hub) (robot : String) : Reading → Option Json
  | .location => (h.cache.location.get? robot).map Location.toJson
  | .battery => (h.cache.battery.get? robot).map batteryJson
  | .status => (h.cache.status.get? robot).map statusJson
  | .trip => (h.cache.trip.get? robot).map TripState.toJson
  | .qrCode => (h.cache.qrCode.get? robot).map QrCode.toJson
  | .warning => (h.cache.warning.get? robot).map Warning.toJson

/-- Serves a cached value of a live robot's row; a hit schedules the row. -/
def hit? {α : Type} (h : Hub) (robot : String) (v : Option α) : Option α × Hub :=
  if h.isOnline robot then
    match v with
    | some a => (some a, h.scheduleRobot robot)
    | none => (none, h)
  else (none, h)

/-- Reads a reading of a live robot; a hit schedules the robot's row. -/
def reading? (h : Hub) (robot : String) (r : Reading) : Option Json × Hub :=
  h.hit? robot (h.cached? robot r)

/-- Reads the state of a container of a live robot; a hit schedules the container's row. -/
def container? (h : Hub) (robot code : String) : Option ContainerState × Hub :=
  if h.isOnline robot then
    match h.cache.container? robot code with
    | some v => (some v, h.scheduleContainer robot code)
    | none => (none, h)
  else (none, h)

/-- Whether a live robot reports the available status, up to case. -/
def isFree (h : Hub) (robot : String) : Bool × Hub :=
  let (v, h) := h.hit? robot (h.cache.status.get? robot)
  (match v with
    | some s => Fold.equalFold s h.settings.availableStatus
    | none => false, h)

/-- Clears a robot's alive flag. -/
def markOffline (h : Hub) (robot : String) : Hub :=
  let (t, was) := h.tracker.markOffline robot
  ({ h with tracker := t }).wentOffline (if was then [robot] else [])

/-- Clears every alive flag; answers how many were set. -/
def markAllOffline (h : Hub) : Nat × Hub :=
  let (t, ids) := h.tracker.markAllOffline
  (ids.length, ({ h with tracker := t }).wentOffline ids)

/-- Forgets every stale sighting; answers the robots forgotten. -/
def sweep (h : Hub) : List String × Hub :=
  let (t, evicted, alive) := h.tracker.sweep h.now
  let counters := { h.counters with robotsAlive := alive,
                                    evictions := h.counters.evictions + evicted.length }
  (evicted, ({ h with tracker := t, counters }).wentOffline evicted)

/-- A robot's row with every cached reading laid over it. -/
def overlay (h : Hub) (row : RobotRow) : RobotRow :=
  let c := h.cache
  let id := row.code
  let row := match c.location.get? id with
    | some v => { row with lat := v.lat, lon := v.lon, roomCode := v.roomCode }
    | none => row
  let row := match c.battery.get? id with
    | some v => { row with battery := v }
    | none => row
  let row := match c.status.get? id with
    | some v => { row with status := v }
    | none => row
  let row := match c.trip.get? id with
    | some v => { row with tripId := v.tripId, tripProgress := v.progress, tripStatus := v.status }
    | none => row
  let row := match c.qrCode.get? id with
    | some v => { row with qrCode := v.code }
    | none => row
  let row := match c.warning.get? id with
    | some v => { row with warning := v.code }
    | none => row
  let row := { row with online := h.isOnline id }
  let row := match h.tracker.lastSeen? id with
    | some t => { row with lastSeenAt := t.toStored }
    | none => row
  { row with updatedAt := h.now.toStored }

/-- Runs one write; answers whether it succeeded. -/
def write (h : Hub) : WriteTask → Bool × Hub
  | .robot id =>
    match h.store.findRobot id with
    | .error _ => (false, h)
    | .ok found =>
      match h.store.saveRobot (h.overlay (found.getD { code := id })) with
      | .ok s => (true, { h with store := s })
      | .error _ => (false, h)
  | .container robot code =>
    match h.cache.container? robot code with
    | none => (true, h)
    | some v =>
      match h.store.findContainer robot code with
      | .error _ => (false, h)
      | .ok found =>
        let row := (found.getD { robotCode := robot, containerCode := code })
        let row := { row with status := v.status, updatedAt := h.now.toStored }
        match h.store.saveContainer row with
        | .ok s => (true, { h with store := s })
        | .error _ => (false, h)

/-- Runs the newest waiting write of each row and empties the queue. -/
def flush (h : Hub) : Hub :=
  let tasks := h.queue.batch
  tasks.foldl (fun h t =>
    let (ok, h) := h.write t
    h.countWrite (if ok then "success" else "failed")) { h with queue := h.queue.drained }

end Hub

end DeliveryFleet
