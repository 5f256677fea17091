import DeliveryFleet.Proofs.Liveness.Sightings
import DeliveryFleet.Proofs.Session.Frame

/-!
# Who is online

A robot's liveness log over a session (`Console.livenessLog`) holds what each step told of the
robot. A routed message accepted from it (`Hub.acceptedFrom?`) marks it seen at the clock of the
step, unless it is a heartbeat saying the robot goes away; such a heartbeat, taking the robot
offline by name, and taking every robot offline each mark it gone.

Every step keeps the tracker in agreement with the log (`Tracker.Agrees.nextHub`): a message goes
through `Hub.apply`, which marks its robot seen or, for a heartbeat saying it goes away, takes it
offline; the other liveness steps take robots offline or forget stale sightings, and no other step
touches the tracker (`Console.runStep_robots`). So over a whole session
(`Console.agrees_afterSteps`), from a hub with no sighting of the robot, the robot is online only
while its last liveness event is a sighting less than the timeout ago, and each read that answers
for the robot (a reading, a container, whether it is free) answers only while it is online
(`Console.recently_seen_of_online`). The durable rows play no part.
-/

namespace DeliveryFleet

/-- What an accepted message tells of its robot's liveness at an instant: a heartbeat saying the
robot goes away takes it offline, and any other message marks it seen. -/
def Message.livenessEvent (now : Instant) : Message → LivenessEvent
  | .heartbeat false => .gone
  | _ => .seen now

theorem Message.livenessEvent_of_ne_heartbeat {m : Message} (hm : ∀ a, m ≠ .heartbeat a)
    (now : Instant) : m.livenessEvent now = .seen now := by
  cases m with
  | heartbeat a => exact absurd rfl (hm a)
  | _ => rfl

namespace Hub

variable (h : Hub) {robot : String} {log : List LivenessEvent}

/-! ## What a message does to the tracker -/

theorem touch_tracker (r : String) : (h.touch r).tracker = h.tracker.markSeen r h.now :=
  congrArg Prod.fst (scheduleRobot_robots _ r)

theorem putContainer_tracker (r : String) (v : ContainerState) :
    (h.putContainer r v).tracker = h.tracker.markSeen r h.now :=
  congrArg Prod.fst (scheduleContainer_robots _ r v.containerCode)

theorem heartbeat_tracker (r : String) (alive : Bool) :
    (h.heartbeat r alive).tracker =
      if alive then (h.tracker.setSelfReported r true).markSeen r h.now
      else ((h.tracker.setSelfReported r false).markOffline r).1 := by
  cases alive
  · exact congrArg Prod.fst (wentOffline_robots _ _)
  · exact touch_tracker _ r

/-- A message other than a heartbeat marks its robot seen. -/
theorem apply_tracker_of_ne_heartbeat {m : Message} (hm : ∀ a, m ≠ .heartbeat a) (r : String) :
    (h.apply r m).tracker = h.tracker.markSeen r h.now := by
  cases m with
  | container v o t => exact putContainer_tracker h r v
  | heartbeat a => exact absurd rfl (hm a)
  | _ => exact touch_tracker _ r

/-- Closing a pickup after a container's report leaves the tracker as the report left it. -/
theorem handle_tracker (r : String) (m : Message) :
    (h.handle r m).2.tracker = (h.apply r m).tracker :=
  congrArg Prod.fst (handle_robots h r m)

/-- No message changes the tracker's timeout. -/
theorem apply_timeout (r : String) (m : Message) : (h.apply r m).tracker.timeout = h.tracker.timeout := by
  by_cases hb : ∃ alive, m = .heartbeat alive
  · obtain ⟨alive, rfl⟩ := hb
    rw [show h.apply r (.heartbeat alive) = h.heartbeat r alive from rfl, heartbeat_tracker]
    cases alive <;> simp
  · simp only [not_exists] at hb
    rw [apply_tracker_of_ne_heartbeat h hb]
    simp

theorem route_timeout (topic payload : List UInt8) :
    (h.route topic payload).2.tracker.timeout = h.tracker.timeout := by
  unfold route
  rcases Route.match? h.settings.root topic with _ | ⟨k, r⟩
  · rfl
  · cases hd : Message.decode k payload with
    | none => simp [hd]
    | some m => simp [hd, handle_tracker, apply_timeout]

end Hub

/-! ## Agreement through a routed message -/

namespace Tracker.Agrees

open Hub

variable (h : Hub) {robot : String} {log : List LivenessEvent}

/-- Applying a message from a robot adds what it tells to the robot's own log. -/
theorem apply (hag : h.tracker.Agrees robot log) (r : String) (m : Message) :
    (h.apply r m).tracker.Agrees robot (log ++ if r = robot then [m.livenessEvent h.now] else []) := by
  by_cases hb : ∃ alive, m = .heartbeat alive
  · obtain ⟨alive, rfl⟩ := hb
    rw [show h.apply r (.heartbeat alive) = h.heartbeat r alive from rfl, heartbeat_tracker]
    cases alive
    · exact (hag.setSelfReported false).markOffline r
    · exact (hag.setSelfReported true).markSeen r h.now
  · simp only [not_exists] at hb
    rw [apply_tracker_of_ne_heartbeat h hb, Message.livenessEvent_of_ne_heartbeat hb]
    exact hag.markSeen r h.now

/-- Routing a message adds what it tells of a robot to the robot's log when it is accepted from
the robot, and keeps agreement otherwise. -/
theorem route (hag : h.tracker.Agrees robot log) (topic payload : List UInt8) :
    (h.route topic payload).2.tracker.Agrees robot
      (log ++ ((h.acceptedFrom? robot topic payload).map (·.livenessEvent h.now)).toList) := by
  unfold Hub.route Hub.acceptedFrom?
  rcases Route.match? h.settings.root topic with _ | ⟨k, r⟩
  · simpa using hag
  · cases hd : Message.decode k payload with
    | none => by_cases hr : r = robot <;> simpa [hd, hr] using hag
    | some m =>
      have hag' := hag.apply h r m
      rw [← handle_tracker] at hag'
      by_cases hr : r = robot <;> simpa [hd, hr] using hag'

end Tracker.Agrees

namespace Console

open Hub

/-- What a step of a session tells of a robot's liveness: a routed message accepted from the
robot, or the robot taken offline by name or with every robot. -/
def livenessEvent? (h : Hub) (robot : String) (step : Json) : Option LivenessEvent :=
  match Request.text step "op" with
  | "route" => (acceptedMessage? h robot step).map (·.livenessEvent h.now)
  | "mark_offline" => if Request.text step "robot" = robot then some .gone else none
  | "mark_all_offline" => some .gone
  | _ => none

/-- A robot's liveness log over the steps of a session. -/
def livenessLog (h : Hub) (robot : String) : List Json → List LivenessEvent
  | [] => []
  | step :: rest => (livenessEvent? h robot step).toList ++ livenessLog (nextHub h step) robot rest

variable {h : Hub} {robot : String} {log : List LivenessEvent}

/-- A step that is not one of the four that change the tracker tells nothing of liveness. -/
theorem livenessEvent?_of_quiet {step : Json} (hroute : Request.text step "op" ≠ "route")
    (hoff : Request.text step "op" ≠ "mark_offline")
    (hall : Request.text step "op" ≠ "mark_all_offline") : livenessEvent? h robot step = none := by
  unfold livenessEvent?
  split <;> simp_all

end Console

namespace Tracker.Agrees

open Hub Console

variable {h : Hub} {robot : String} {log : List LivenessEvent}

/-- One step keeps the tracker's timeout, and the tracker in agreement with the robot's log
extended by what the step tells. -/
theorem nextHub (hag : h.tracker.Agrees robot log) (step : Json) :
    (Console.nextHub h step).tracker.timeout = h.tracker.timeout ∧
      (Console.nextHub h step).tracker.Agrees robot (log ++ (livenessEvent? h robot step).toList) := by
  cases step
  case object members =>
    -- the four steps that change the tracker, then every other step
    by_cases hroute : Request.text (.object members) "op" = "route"
    · simp only [nextHub_route hroute, livenessEvent?, acceptedMessage?, hroute]
      rcases payloadOf (.object members) with _ | bytes
      · simpa using hag
      · exact ⟨by simp [route_timeout], by simpa using hag.route h _ bytes⟩
    by_cases hoff : Request.text (.object members) "op" = "mark_offline"
    · simp only [nextHub_object, runStep, livenessEvent?, hoff]
      refine ⟨by simp, ?_⟩
      by_cases hr : Request.text (.object members) "robot" = robot <;>
        simpa [hr] using hag.markOffline (Request.text (.object members) "robot")
    by_cases hall : Request.text (.object members) "op" = "mark_all_offline"
    · simp only [nextHub_object, runStep, livenessEvent?, hall]
      exact ⟨by simp, by simpa using Tracker.agrees_markAllOffline h.tracker (log ++ [.gone])⟩
    by_cases hsweep : Request.text (.object members) "op" = "sweep"
    · simp only [nextHub_object, runStep, livenessEvent?, hsweep]
      exact ⟨by simp, by simpa using hag.sweep h.now⟩
    have hquiet : (Console.nextHub h (.object members)).tracker = h.tracker :=
      congrArg Prod.fst (runStep_robots h _ hroute hoff hall hsweep)
    rw [hquiet, livenessEvent?_of_quiet hroute hoff hall, Option.toList_none, List.append_nil]
    exact ⟨rfl, hag⟩
  -- a step that is not an object is answered without running
  all_goals exact ⟨rfl, by simpa [Console.nextHub, livenessEvent?, Request.text, Json.field?] using hag⟩

end Tracker.Agrees

namespace Console

variable {h : Hub} {robot : String} {log : List LivenessEvent}

/-- Over a session, the tracker keeps its timeout and agrees with the robot's liveness log. -/
theorem agrees_afterSteps (steps : List Json) (hag : h.tracker.Agrees robot log) :
    (afterSteps h steps).tracker.timeout = h.tracker.timeout ∧
      (afterSteps h steps).tracker.Agrees robot (log ++ livenessLog h robot steps) := by
  induction steps generalizing h log with
  | nil => simpa [livenessLog] using hag
  | cons step steps ih =>
    obtain ⟨htimeout, hag'⟩ := hag.nextHub step
    obtain ⟨htimeout', hag''⟩ := ih hag'
    refine ⟨htimeout'.trans htimeout, ?_⟩
    simpa [livenessLog] using hag''

end Console

/-! ## Reads answer only for a robot online -/

namespace Hub

variable (h : Hub) (robot : String)

theorem isOnline_of_hit {α : Type} {v : Option α} (hs : (h.hit? robot v).1.isSome = true) :
    h.isOnline robot = true := by
  unfold hit? at hs
  split at hs
  · assumption
  · simp at hs

theorem isOnline_of_reading {r : Reading} (hs : (h.reading? robot r).1.isSome = true) :
    h.isOnline robot = true :=
  isOnline_of_hit h robot hs

theorem isOnline_of_container {c : String} (hs : (h.container? robot c).1.isSome = true) :
    h.isOnline robot = true := by
  unfold container? at hs
  split at hs
  · assumption
  · simp at hs

theorem isOnline_of_isFree (hs : (h.isFree robot).1 = true) : h.isOnline robot = true := by
  unfold isFree at hs
  rcases hp : h.hit? robot (h.cache.status.get? robot) with ⟨_ | s, h'⟩
  · rw [hp] at hs
    cases hs
  · exact isOnline_of_hit h robot (v := h.cache.status.get? robot) (by rw [hp]; rfl)

end Hub

namespace Console

/-- In a session from a hub with no sighting of a robot, while the robot is online, and whenever
a read of its readings, of one of its containers or of whether it is free answers, its last
liveness event is a sighting less than the timeout ago: it was marked seen then, and neither taken
offline, by name, with every robot or by its own heartbeat, since. -/
theorem recently_seen_of_online (h : Hub) (steps : List Json) (robot : String)
    (hnone : h.tracker.entries[robot]? = none) (htimeout : h.tracker.timeout ≤ int64Max)
    (hread : (afterSteps h steps).isOnline robot = true ∨
      (∃ r, ((afterSteps h steps).reading? robot r).1.isSome = true) ∨
      (∃ c, ((afterSteps h steps).container? robot c).1.isSome = true) ∨
      ((afterSteps h steps).isFree robot).1 = true) :
    ∃ t, (livenessLog h robot steps).getLast? = some (.seen t) ∧
      (afterSteps h steps).now.nanos - t.nanos < h.tracker.timeout := by
  have honline : (afterSteps h steps).isOnline robot = true := by
    rcases hread with hon | ⟨r, hr⟩ | ⟨c, hc⟩ | hfree
    · exact hon
    · exact Hub.isOnline_of_reading _ robot hr
    · exact Hub.isOnline_of_container _ robot hc
    · exact Hub.isOnline_of_isFree _ robot hfree
  obtain ⟨hkeep, hag⟩ := agrees_afterSteps steps (Tracker.agrees_nil hnone)
  rw [← hkeep] at htimeout ⊢
  simpa using hag.recent htimeout honline

/-- A robot whose heartbeat opens a session is online, its last event that sighting. -/
theorem recently_seen_after_heartbeat :
    (Hub.fresh {} (Instant.ofCivil 2024 1 1 0 0 0 0) 30000000000 5000 []).tracker.entries["R1"]? =
      none ∧
    (Hub.fresh {} (Instant.ofCivil 2024 1 1 0 0 0 0) 30000000000 5000 []).tracker.timeout ≤
      int64Max ∧
    (afterSteps (Hub.fresh {} (Instant.ofCivil 2024 1 1 0 0 0 0) 30000000000 5000 [])
      [.object [("op", .string "route"), ("topic", .string "robot/R1/heartbeat"),
        ("payload", .string "")]]).isOnline "R1" = true ∧
    ∃ t, (livenessLog (Hub.fresh {} (Instant.ofCivil 2024 1 1 0 0 0 0) 30000000000 5000 []) "R1"
        [.object [("op", .string "route"), ("topic", .string "robot/R1/heartbeat"),
          ("payload", .string "")]]).getLast? = some (.seen t) ∧
      (afterSteps (Hub.fresh {} (Instant.ofCivil 2024 1 1 0 0 0 0) 30000000000 5000 [])
        [.object [("op", .string "route"), ("topic", .string "robot/R1/heartbeat"),
          ("payload", .string "")]]).now.nanos - t.nanos <
        (Hub.fresh {} (Instant.ofCivil 2024 1 1 0 0 0 0) 30000000000 5000 []).tracker.timeout :=
  ⟨rfl, by decide, by decide +kernel,
    recently_seen_of_online _ _ _ rfl (by decide) (.inl (by decide +kernel))⟩

end Console

end DeliveryFleet
