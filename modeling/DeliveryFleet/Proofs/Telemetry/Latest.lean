import DeliveryFleet.Proofs.Session.Frame

/-!
# The latest readings

What the cache holds for one robot (`Cache.readings`) is each of its readings and the state of
each of its containers. A message accepted from the robot changes them as `Readings.record` says:
a location, a battery charge, a status and a QR code replace the reading of their kind; a warning,
and a forced move under the code `FORCE_MOVE`, replace the warning; a trip replaces the trip, and a
trip state changes only the status of the trip it names, or else starts a trip of that id and
status alone; a container's state replaces that of the container of its code. A heartbeat changes
none of them.

Routing changes a robot's readings only by recording a message accepted from it
(`Hub.route_readings`): a message for another robot, one whose topic matches no kind and one that
does not decode change nothing, and no step of a session other than routing touches the cache
(`Console.runStep_robots`). So the readings a session leaves are its messages accepted from the
robot, recorded in order over the readings it started from (`Console.readings_afterSteps`): each
reading is that of the last accepted message that writes it, or the one the session started with,
and the trip is the fold of the trip messages (`Console.latest_readings`).
-/

namespace DeliveryFleet

/-- What the cache holds for one robot: each reading, and the state of its container of each
code. -/
structure Readings where
  location : Option Location
  battery : Option Float
  status : Option String
  trip : Option TripState
  qrCode : Option QrCode
  warning : Option Warning
  container : String → Option ContainerState

/-- What the cache holds for a robot. -/
def Cache.readings (c : Cache) (robot : String) : Readings where
  location := c.location[robot]?
  battery := c.battery[robot]?
  status := c.status[robot]?
  trip := c.trip[robot]?
  qrCode := c.qrCode[robot]?
  warning := c.warning[robot]?
  container code := c.container? robot code

namespace Message

/-- The location a message reports. -/
def location? : Message → Option Location
  | .location v => some v
  | _ => none

/-- The battery charge a message reports. -/
def battery? : Message → Option Float
  | .battery b => some b
  | _ => none

/-- The status a message reports. -/
def status? : Message → Option String
  | .status s => some s
  | _ => none

/-- The QR code a message reports. -/
def qrCode? : Message → Option QrCode
  | .qrCode v => some v
  | _ => none

/-- The warning a message raises: a warning, or a forced move under the forced-move code with its
reason. -/
def warning? : Message → Option Warning
  | .warning v => some v
  | .forceMove reason => some ⟨Warning.forceMoveCode, reason⟩
  | _ => none

/-- The state a message reports of the container of a code. -/
def container? (code : String) : Message → Option ContainerState
  | .container v _ _ => if v.containerCode = code then some v else none
  | _ => none

/-- The trip after a message: a trip replaces the trip before; a trip state keeps the trip before
with the new status when it names that trip, and otherwise starts a trip of its id and status
alone. -/
def tripAfter (before : Option TripState) : Message → Option TripState
  | .trip v => some v
  | .tripState id s =>
    match before with
    | some t => if t.tripId = id then some { t with status := s } else some ⟨id, 0, s, "", ""⟩
    | none => some ⟨id, 0, s, "", ""⟩
  | _ => before

end Message

namespace Readings

/-- What a message accepted from a robot does to its readings. -/
def record (r : Readings) (m : Message) : Readings where
  location := m.location?.or r.location
  battery := m.battery?.or r.battery
  status := m.status?.or r.status
  trip := Message.tripAfter r.trip m
  qrCode := m.qrCode?.or r.qrCode
  warning := m.warning?.or r.warning
  container code := (m.container? code).or (r.container code)

/-- A reading that each message either writes or leaves holds, after a list of messages, what the
last message that writes it wrote, or what it held before them all. -/
theorem foldl_latest {α : Type} (p : Readings → Option α) (f : Message → Option α)
    (hp : ∀ r m, p (r.record m) = (f m).or (p r)) (l : List Message) (r : Readings) :
    p (l.foldl record r) = (l.reverse.findSome? f).or (p r) := by
  induction l generalizing r with
  | nil => simp
  | cons m l ih =>
    -- the newest message is searched first, and the one at the head of the list last
    have hlast : (m :: l).reverse.findSome? f = (l.reverse.findSome? f).or (f m) := by
      simp [List.findSome?_append]
    rw [List.foldl_cons, ih, hp, hlast, Option.or_assoc]

theorem trip_foldl (l : List Message) (r : Readings) :
    (l.foldl record r).trip = l.foldl Message.tripAfter r.trip :=
  (List.foldl_hom trip (fun _ _ => rfl)).symm

end Readings

/-! ## What a message does to the cache -/

theorem Cache.container?_putContainer (c : Cache) (r robot code : String) (v : ContainerState) :
    (c.putContainer r v).container? robot code =
      if r = robot ∧ v.containerCode = code then some v else c.container? robot code := by
  by_cases hr : r = robot
  · subst hr
    by_cases hc : v.containerCode = code
    · simp [Cache.putContainer, Cache.container?, Cache.containersOf, hc]
    · simp [Cache.putContainer, Cache.container?, Cache.containersOf, Std.TreeMap.getElem?_insert,
        hc]
  · simp [Cache.putContainer, Cache.container?, Cache.containersOf, Std.TreeMap.getElem?_insert,
      hr]

/-- Caching a container's state changes, of the robot's readings, only that container's state. -/
theorem Cache.readings_putContainer (c : Cache) (r robot : String) (v : ContainerState) :
    (c.putContainer r v).readings robot =
      if r = robot then
        { c.readings robot with
          container := fun code =>
            (if v.containerCode = code then some v else none).or (c.container? robot code) }
      else c.readings robot := by
  by_cases hr : r = robot
  · rw [if_pos hr]
    simp only [Cache.readings, Cache.container?_putContainer, hr, true_and]
    congr 1
    funext code
    by_cases hc : v.containerCode = code <;> simp [hc]
  · rw [if_neg hr]
    simp only [Cache.readings, Cache.container?_putContainer, hr, false_and, if_false]
    rfl

theorem Message.tripAfter_tripState (before : Option TripState) (id s : String) :
    Message.tripAfter before (.tripState id s) = some (Cache.tripAfterStatus before id s) := by
  cases before with
  | none => rfl
  | some t => by_cases ht : t.tripId = id <;> simp [Message.tripAfter, Cache.tripAfterStatus, ht]

namespace Hub

variable (h : Hub)

theorem touch_cache (r : String) : (h.touch r).cache = h.cache :=
  congrArg Prod.snd (scheduleRobot_robots _ r)

theorem heartbeat_cache (r : String) (alive : Bool) : (h.heartbeat r alive).cache = h.cache := by
  cases alive
  · exact congrArg Prod.snd (wentOffline_robots _ _)
  · exact touch_cache _ r

theorem putContainer_cache (r : String) (v : ContainerState) :
    (h.putContainer r v).cache = h.cache.putContainer r v :=
  congrArg Prod.snd (scheduleContainer_robots _ r v.containerCode)

/-- Applying a message from a robot records it in that robot's readings, and leaves every other
robot's. -/
theorem apply_readings (r : String) (m : Message) (robot : String) :
    (h.apply r m).cache.readings robot =
      if r = robot then (h.cache.readings robot).record m else h.cache.readings robot := by
  by_cases hr : r = robot
  · subst hr
    cases m with
    | container v o t =>
      rw [show h.apply r (.container v o t) = h.putContainer r v from rfl, putContainer_cache,
        Cache.readings_putContainer, if_pos rfl, if_pos rfl]
      rfl
    | tripState id s =>
      simp [apply, withCache, touch_cache, Cache.readings, Readings.record, Cache.putTripStatus,
        Message.tripAfter_tripState, Message.location?, Message.battery?, Message.status?,
        Message.qrCode?, Message.warning?, Message.container?, Cache.container?,
        Cache.containersOf]
    | _ =>
      simp [apply, withCache, touch_cache, heartbeat_cache, Cache.readings, Readings.record,
        Message.location?, Message.battery?, Message.status?, Message.qrCode?, Message.warning?,
        Message.container?, Message.tripAfter, Cache.container?, Cache.containersOf]
  · cases m with
    | container v o t =>
      rw [show h.apply r (.container v o t) = h.putContainer r v from rfl, putContainer_cache,
        Cache.readings_putContainer, if_neg hr, if_neg hr]
    | _ =>
      simp [apply, withCache, touch_cache, heartbeat_cache, Cache.readings, Cache.putTripStatus,
        Std.TreeMap.getElem?_insert, hr, Cache.container?, Cache.containersOf]

/-- Routing records the message accepted from a robot in its readings, and changes them in no
other way. -/
theorem route_readings (topic payload : List UInt8) (robot : String) :
    (h.route topic payload).2.cache.readings robot =
      (h.acceptedFrom? robot topic payload).toList.foldl Readings.record (h.cache.readings robot) := by
  unfold route acceptedFrom?
  rcases Route.match? h.settings.root topic with _ | ⟨k, r⟩
  · rfl
  · cases hd : Message.decode k payload with
    | none => by_cases hr : r = robot <;> simp [hd, hr]
    | some m =>
      have hc : (h.handle r m).2.cache.readings robot = (h.apply r m).cache.readings robot :=
        congrArg (fun c : Cache => c.readings robot) (congrArg Prod.snd (handle_robots h r m))
      simp only [hd, countMessage_cache, hc, apply_readings]
      by_cases hr : r = robot <;> simp [hr]

end Hub

namespace Console

open Hub

/-- The messages a session accepts from a robot, in order. -/
def messagesFrom (h : Hub) (robot : String) : List Json → List Message
  | [] => []
  | step :: rest => (acceptedMessage? h robot step).toList ++ messagesFrom (nextHub h step) robot rest

/-- One step records in a robot's readings the message it accepts from the robot, if any. -/
theorem nextHub_readings (h : Hub) (robot : String) (step : Json) :
    (nextHub h step).cache.readings robot =
      (acceptedMessage? h robot step).toList.foldl Readings.record (h.cache.readings robot) := by
  cases step
  case object members =>
    by_cases hroute : Request.text (.object members) "op" = "route"
    · rw [nextHub_route hroute]
      simp only [acceptedMessage?, hroute]
      rcases payloadOf (.object members) with _ | bytes
      · rfl
      · exact route_readings h _ bytes robot
    -- the steps that change only the tracker, then every other step
    have hquiet : (nextHub h (.object members)).cache = h.cache := by
      by_cases hoff : Request.text (.object members) "op" = "mark_offline"
      · simp [nextHub_object, runStep, hoff]
      by_cases hall : Request.text (.object members) "op" = "mark_all_offline"
      · simp [nextHub_object, runStep, hall]
      by_cases hsweep : Request.text (.object members) "op" = "sweep"
      · simp [nextHub_object, runStep, hsweep]
      exact congrArg Prod.snd (runStep_robots h _ hroute hoff hall hsweep)
    simp [hquiet, acceptedMessage?, hroute]
  -- a step that is not an object is answered without running
  all_goals simp [nextHub, acceptedMessage?, Request.text, Json.field?]

/-- The readings a session leaves are the messages it accepts from the robot, recorded in order over
the readings it starts from. -/
theorem readings_afterSteps (h : Hub) (robot : String) (steps : List Json) :
    (afterSteps h steps).cache.readings robot =
      (messagesFrom h robot steps).foldl Readings.record (h.cache.readings robot) := by
  induction steps generalizing h with
  | nil => rfl
  | cons step steps ih =>
    rw [afterSteps_cons, ih, nextHub_readings, messagesFrom, List.foldl_append]

/-- After any session, each reading a robot's cache holds is that of the last message accepted from
the robot that writes it (a warning or a forced move for the warning), or the one the session
started with; its trip is the fold of its accepted messages; and the state of its container of
each code is that of the last accepted report on that container. -/
theorem latest_readings (h : Hub) (robot : String) (steps : List Json) :
    (afterSteps h steps).cache.location[robot]? =
        ((messagesFrom h robot steps).reverse.findSome? Message.location?).or
          h.cache.location[robot]? ∧
    (afterSteps h steps).cache.battery[robot]? =
        ((messagesFrom h robot steps).reverse.findSome? Message.battery?).or
          h.cache.battery[robot]? ∧
    (afterSteps h steps).cache.status[robot]? =
        ((messagesFrom h robot steps).reverse.findSome? Message.status?).or
          h.cache.status[robot]? ∧
    (afterSteps h steps).cache.qrCode[robot]? =
        ((messagesFrom h robot steps).reverse.findSome? Message.qrCode?).or
          h.cache.qrCode[robot]? ∧
    (afterSteps h steps).cache.warning[robot]? =
        ((messagesFrom h robot steps).reverse.findSome? Message.warning?).or
          h.cache.warning[robot]? ∧
    (afterSteps h steps).cache.trip[robot]? =
        (messagesFrom h robot steps).foldl Message.tripAfter h.cache.trip[robot]? ∧
    ∀ code, (afterSteps h steps).cache.container? robot code =
        ((messagesFrom h robot steps).reverse.findSome? (Message.container? code)).or
          (h.cache.container? robot code) := by
  have hrun := readings_afterSteps h robot steps
  -- each reading is read off the fold by its projection
  have latest := fun {α : Type} (p : Readings → Option α) (f : Message → Option α)
      (hp : ∀ r m, p (r.record m) = (f m).or (p r)) =>
    (congrArg p hrun).trans (Readings.foldl_latest p f hp _ _)
  refine ⟨latest Readings.location _ fun _ _ => rfl, latest Readings.battery _ fun _ _ => rfl,
    latest Readings.status _ fun _ _ => rfl, latest Readings.qrCode _ fun _ _ => rfl,
    latest Readings.warning _ fun _ _ => rfl,
    (congrArg Readings.trip hrun).trans (Readings.trip_foldl _ _),
    fun code => latest (fun r => r.container code) _ fun _ _ => rfl⟩

end Console

end DeliveryFleet
