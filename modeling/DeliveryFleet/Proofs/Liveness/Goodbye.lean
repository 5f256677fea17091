import DeliveryFleet.Proofs.Liveness.Online
import DeliveryFleet.Proofs.Liveness.Sweep

/-!
# A robot that said it goes away

A heartbeat saying a robot goes away clears the self-reported flag of its sighting, and while the
tracker keeps that sighting with the flag cleared (`Tracker.SaidGone`) the robot is not alive.
Marking the robot seen keeps the flag, and so do taking it offline and every step that leaves the
tracker alone. Two steps end it (`Console.revives`): a heartbeat from the robot saying it is alive,
which sets the flag, and a sweep that forgets the sighting. Over a stretch of a session in which
neither happens, the robot stays offline (`Console.offline_after_goodbye`).

A sweep does forget such a sighting once it is stale, and the next message from the robot then
makes a new sighting that reports itself alive: the robot is online again with no heartbeat saying
so (`Console.online_after_forgotten_goodbye`).
-/

namespace DeliveryFleet

/-- The flag of a heartbeat: whether it says its robot is alive. -/
def Message.aliveFlag? : Message → Option Bool
  | .heartbeat alive => some alive
  | _ => none

namespace Tracker

variable (t : Tracker) {robot r : String}

/-- The tracker keeps a sighting of the robot with its self-reported flag cleared. -/
def SaidGone (robot : String) : Prop :=
  ∃ e, t.entries[robot]? = some e ∧ e.selfReported = false

/-- A robot that said it goes away is not alive, however recent its sighting. -/
theorem isAlive_of_saidGone (hg : t.SaidGone robot) (now : Instant) :
    t.isAlive robot now = false := by
  obtain ⟨e, he, hself⟩ := hg
  simp [isAlive, he, aliveAt, hself]

theorem saidGone_setSelfReported : (t.setSelfReported robot false).SaidGone robot :=
  ⟨_, by rw [setSelfReported_entry, if_pos rfl], rfl⟩

namespace SaidGone

variable {t}

theorem markSeen (hg : t.SaidGone robot) (r : String) (now : Instant) :
    (t.markSeen r now).SaidGone robot := by
  obtain ⟨e, he, hself⟩ := hg
  by_cases hr : r = robot
  · subst hr
    exact ⟨_, markSeen_entry_self t now, by simp [he, hself]⟩
  · exact ⟨e, (markSeen_entry_ne t hr now).trans he, hself⟩

theorem markOffline (hg : t.SaidGone robot) (r : String) : (t.markOffline r).1.SaidGone robot := by
  obtain ⟨e, he, hself⟩ := hg
  rw [SaidGone, markOffline_entry, he]
  split
  · exact ⟨_, rfl, hself⟩
  · exact ⟨e, rfl, hself⟩

theorem markAllOffline (hg : t.SaidGone robot) : t.markAllOffline.1.SaidGone robot := by
  obtain ⟨e, he, hself⟩ := hg
  exact ⟨{ e with alive := false }, by rw [markAllOffline_entry, he]; rfl, hself⟩

/-- Setting another robot's flag, or clearing the robot's own again, keeps it cleared. -/
theorem setSelfReported (hg : t.SaidGone robot) {f : Bool} (hf : r = robot → f = false) :
    (t.setSelfReported r f).SaidGone robot := by
  obtain ⟨e, he, hself⟩ := hg
  rw [SaidGone, setSelfReported_entry, he]
  split
  · exact ⟨_, rfl, hf ‹_›⟩
  · exact ⟨e, rfl, hself⟩

/-- A sweep that keeps the sighting keeps its flag cleared. -/
theorem sweep (hg : t.SaidGone robot) {now : Instant} (hkeep : robot ∉ (t.sweep now).2.1) :
    (t.sweep now).1.SaidGone robot := by
  obtain ⟨e, he, hself⟩ := hg
  exact ⟨e, (sweep_entry_of_not_mem t now hkeep).trans he, hself⟩

end SaidGone

end Tracker

namespace Hub

variable (h : Hub) {robot : String}

/-- Routing a message accepted from a robot leaves the tracker as applying the message does. -/
theorem route_tracker_of_accepted {topic : List UInt8} {payload : List UInt8} {m : Message}
    (hm : h.acceptedFrom? robot topic payload = some m) :
    (h.route topic payload).2.tracker = (h.apply robot m).tracker := by
  unfold acceptedFrom? at hm
  unfold route
  rcases hmatch : Route.match? h.settings.root topic with _ | ⟨k, r⟩
  · rw [hmatch] at hm
    cases hm
  · rw [hmatch] at hm
    dsimp only at hm
    split at hm
    · subst r
      simp [hm, handle_tracker]
    · cases hm

end Hub

namespace Tracker.SaidGone

open Hub

variable {h : Hub} {robot : String}

/-- A message keeps a robot's flag cleared unless it is a heartbeat from the robot saying it is
alive. -/
theorem apply (hg : h.tracker.SaidGone robot) (r : String) {m : Message}
    (hm : r = robot → m.aliveFlag? ≠ some true) : (h.apply r m).tracker.SaidGone robot := by
  by_cases hb : ∃ alive, m = .heartbeat alive
  · obtain ⟨alive, rfl⟩ := hb
    rw [show h.apply r (.heartbeat alive) = h.heartbeat r alive from rfl, heartbeat_tracker]
    cases alive
    · exact (hg.setSelfReported fun _ => rfl).markOffline r
    · -- a heartbeat saying alive comes from another robot
      exact (hg.setSelfReported fun hr => absurd rfl (hm hr)).markSeen r h.now
  · simp only [not_exists] at hb
    rw [apply_tracker_of_ne_heartbeat h hb]
    exact hg.markSeen r h.now

theorem route (hg : h.tracker.SaidGone robot) (topic payload : List UInt8)
    (hm : (h.acceptedFrom? robot topic payload).bind Message.aliveFlag? ≠ some true) :
    (h.route topic payload).2.tracker.SaidGone robot := by
  unfold Hub.route
  unfold Hub.acceptedFrom? at hm
  rcases hmatch : Route.match? h.settings.root topic with _ | ⟨k, r⟩
  · simpa using hg
  · rw [hmatch] at hm
    cases hd : Message.decode k payload with
    | none => simpa [hd] using hg
    | some m =>
      have hg' := hg.apply r (m := m) fun hr => by simpa [hr, hd] using hm
      rw [← handle_tracker] at hg'
      simpa [hd] using hg'

end Tracker.SaidGone

namespace Console

open Hub

variable {h : Hub} {robot : String}

/-- The flag of a heartbeat a step accepts from a robot. -/
def heartbeatFrom? (h : Hub) (robot : String) (step : Json) : Option Bool :=
  (acceptedMessage? h robot step).bind Message.aliveFlag?

/-- Whether a step lets a robot that said it goes away come back: a heartbeat from it saying it is
alive, or a sweep that forgets its sighting. -/
def revives (h : Hub) (robot : String) (step : Json) : Bool :=
  heartbeatFrom? h robot step == some true ||
    (Request.text step "op" == "sweep" && (h.tracker.sweep h.now).2.1.contains robot)

/-- Whether no step of a session satisfies `p` at the hub it runs on. -/
def noStep (p : Hub → Json → Bool) (h : Hub) : List Json → Bool
  | [] => true
  | step :: rest => !p h step && noStep p (nextHub h step) rest

/-- A step accepting a message from a robot leaves the tracker as applying the message does. -/
theorem nextHub_tracker_of_accepted {step : Json} {m : Message}
    (hm : acceptedMessage? h robot step = some m) :
    (nextHub h step).tracker = (h.apply robot m).tracker := by
  unfold acceptedMessage? at hm
  split at hm
  · rename_i bytes hop hp
    cases step with
    | object members =>
      rw [nextHub_route hop, hp]
      exact route_tracker_of_accepted h hm
    | _ => simp [Request.text, Json.field?] at hop
  · cases hm

/-- A heartbeat from a robot saying it goes away leaves its sighting with the flag cleared. -/
theorem saidGone_of_goodbye {bye : Json} (hbye : heartbeatFrom? h robot bye = some false) :
    (nextHub h bye).tracker.SaidGone robot := by
  obtain ⟨m, hm, hflag⟩ := Option.bind_eq_some_iff.1 hbye
  -- the only message whose flag is `false` is the heartbeat saying the robot goes away
  have hbye' : m = .heartbeat false := by
    cases m <;> simp_all [Message.aliveFlag?]
  subst hbye'
  rw [nextHub_tracker_of_accepted hm,
    show h.apply robot (.heartbeat false) = h.heartbeat robot false from rfl, heartbeat_tracker]
  exact (Tracker.saidGone_setSelfReported _).markOffline robot

/-- A step that does not let the robot come back keeps its flag cleared. -/
theorem saidGone_nextHub (hg : h.tracker.SaidGone robot) {step : Json}
    (hq : revives h robot step = false) : (nextHub h step).tracker.SaidGone robot := by
  simp only [revives, Bool.or_eq_false_iff, beq_eq_false_iff_ne, Bool.and_eq_false_iff] at hq
  obtain ⟨hmsg, hforget⟩ := hq
  cases step
  case object members =>
    -- the four steps that change the tracker, then every other step
    by_cases hroute : Request.text (.object members) "op" = "route"
    · rw [nextHub_route hroute]
      simp only [heartbeatFrom?, acceptedMessage?, hroute] at hmsg
      rcases hp : payloadOf (.object members) with _ | bytes
      · simpa using hg
      · rw [hp] at hmsg
        simpa using hg.route _ bytes hmsg
    by_cases hoff : Request.text (.object members) "op" = "mark_offline"
    · simp only [nextHub_object, runStep, hoff]
      simpa using hg.markOffline (Request.text (.object members) "robot")
    by_cases hall : Request.text (.object members) "op" = "mark_all_offline"
    · simp only [nextHub_object, runStep, hall]
      simpa using hg.markAllOffline
    by_cases hsweep : Request.text (.object members) "op" = "sweep"
    · simp only [nextHub_object, runStep, hsweep]
      have hkeep : robot ∉ (h.tracker.sweep h.now).2.1 := by simpa [hsweep] using hforget
      simpa using hg.sweep hkeep
    have hquiet : (nextHub h (.object members)).tracker = h.tracker :=
      congrArg Prod.fst (runStep_robots h _ hroute hoff hall hsweep)
    rw [hquiet]
    exact hg
  -- a step that is not an object is answered without running
  all_goals exact hg

/-- Over a stretch of a session in which no step lets the robot come back, its flag stays
cleared. -/
theorem saidGone_afterSteps (steps : List Json) (hg : h.tracker.SaidGone robot)
    (hq : noStep (fun h step => revives h robot step) h steps = true) :
    (afterSteps h steps).tracker.SaidGone robot := by
  induction steps generalizing h with
  | nil => exact hg
  | cons step steps ih =>
    simp only [noStep, Bool.and_eq_true, Bool.not_eq_true'] at hq
    exact ih (saidGone_nextHub hg hq.1) hq.2

/-- After a heartbeat from a robot saying it goes away, the robot is offline at the end of every
later stretch of the session in which no heartbeat from it says it is alive and no sweep forgets
its sighting, whatever else it sends and however the clock moves. -/
theorem offline_after_goodbye (h : Hub) (robot : String) (bye : Json) (steps : List Json)
    (hbye : heartbeatFrom? h robot bye = some false)
    (hq : noStep (fun h step => revives h robot step) (nextHub h bye) steps = true) :
    (afterSteps h (bye :: steps)).isOnline robot = false :=
  Tracker.isAlive_of_saidGone _ (saidGone_afterSteps steps (saidGone_of_goodbye hbye) hq) _

/-- A robot says it goes away, then sends a status: it stays offline. -/
theorem offline_after_goodbye_and_status :
    heartbeatFrom? (Hub.fresh {} (Instant.ofCivil 2024 1 1 0 0 0 0) 30000000000 5000 []) "R1"
      (.object [("op", .string "route"), ("topic", .string "robot/R1/heartbeat"),
        ("payload", .string "\x7b\"isAlive\":false\x7d")]) = some false ∧
    noStep (fun h step => revives h "R1" step)
      (nextHub (Hub.fresh {} (Instant.ofCivil 2024 1 1 0 0 0 0) 30000000000 5000 [])
        (.object [("op", .string "route"), ("topic", .string "robot/R1/heartbeat"),
          ("payload", .string "\x7b\"isAlive\":false\x7d")]))
      [.object [("op", .string "route"), ("topic", .string "robot/R1/qr-code"),
        ("payload", .string "")]] = true ∧
    (afterSteps (Hub.fresh {} (Instant.ofCivil 2024 1 1 0 0 0 0) 30000000000 5000 [])
      [.object [("op", .string "route"), ("topic", .string "robot/R1/heartbeat"),
        ("payload", .string "\x7b\"isAlive\":false\x7d")],
       .object [("op", .string "route"), ("topic", .string "robot/R1/qr-code"),
        ("payload", .string "")]]).isOnline "R1" = false :=
  ⟨by decide +kernel, by decide +kernel, offline_after_goodbye _ _ _ _ (by decide +kernel)
    (by decide +kernel)⟩

/-- A robot that said it goes away is online again after a sweep forgets its sighting: its
goodbye was its first word, so the sighting was never seen and is stale at once, and its next
report makes a new sighting that reports itself alive. No heartbeat saying it is alive came in
between. -/
theorem online_after_forgotten_goodbye :
    ¬ ∀ (h : Hub) (robot : String) (bye : Json) (steps : List Json),
      heartbeatFrom? h robot bye = some false →
      noStep (fun h step => heartbeatFrom? h robot step == some true) (nextHub h bye) steps =
        true →
      (afterSteps h (bye :: steps)).isOnline robot = false := by
  intro hclaim
  have hoff := hclaim (Hub.fresh {} (Instant.ofCivil 2024 1 1 0 0 0 0) 30000000000 5000 []) "R1"
    (.object [("op", .string "route"), ("topic", .string "robot/R1/heartbeat"),
      ("payload", .string "\x7b\"isAlive\":false\x7d")])
    [.object [("op", .string "sweep")],
     .object [("op", .string "route"), ("topic", .string "robot/R1/qr-code"),
      ("payload", .string "")]]
    (by decide +kernel) (by decide +kernel)
  revert hoff
  decide +kernel

end Console

end DeliveryFleet
