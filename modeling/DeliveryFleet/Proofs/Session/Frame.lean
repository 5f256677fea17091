import DeliveryFleet.Proofs.Console.Steps

/-!
# What the steps of a session leave alone

What the hub knows of its robots (`Hub.robots`) is its liveness tracker and its telemetry cache.
Only four kinds of step change it: routing a robot's message, taking a robot or every robot
offline, and a sweep. Every other step keeps it (`Console.runStep_robots`): the reads of the
cache, which at most schedule a write, a flush, the pickup operations, the clock moving on, and
the steps that read or write the store.

A session hands each step the hub the step before it left, with its outbox taken
(`Console.nextHub`), and `Console.afterSteps` is the hub the whole session leaves
(`Console.runSteps_append`). A routing step accepts a message from a robot
(`Console.acceptedMessage?`) when its topic names the robot and its payload decodes as a valid
message of the topic's kind (`Hub.acceptedFrom?`).
-/

namespace DeliveryFleet

namespace Hub

/-- The message a routed payload brings from a robot: the topic names the robot under the root,
and the payload is a valid message of the topic's kind. -/
def acceptedFrom? (h : Hub) (robot : String) (topic payload : List UInt8) : Option Message :=
  match Route.match? h.settings.root topic with
  | some (k, r) => if r = robot then Message.decode k payload else none
  | none => none

/-- What the hub knows of its robots: the liveness tracker and the telemetry cache. -/
def robots (h : Hub) : Tracker × Cache := (h.tracker, h.cache)

variable (h : Hub)

/-! ## Operations that keep what the hub knows of its robots -/

@[simp] theorem countMessage_robots (k r : String) : (h.countMessage k r).robots = h.robots := rfl
@[simp] theorem countWrite_robots (r : String) : (h.countWrite r).robots = h.robots := rfl
@[simp] theorem takeOutbox_robots : h.takeOutbox.2.robots = h.robots := rfl

@[simp] theorem countMessage_tracker (k r : String) : (h.countMessage k r).tracker = h.tracker := rfl
@[simp] theorem countMessage_cache (k r : String) : (h.countMessage k r).cache = h.cache := rfl
@[simp] theorem takeOutbox_tracker : h.takeOutbox.2.tracker = h.tracker := rfl
@[simp] theorem takeOutbox_cache : h.takeOutbox.2.cache = h.cache := rfl
@[simp] theorem takeOutbox_now : h.takeOutbox.2.now = h.now := rfl

@[simp] theorem push_robots (t : WriteTask) : (h.push t).robots = h.robots := by
  unfold push
  split
  split <;> rfl

@[simp] theorem scheduleRobot_robots (r : String) : (h.scheduleRobot r).robots = h.robots := by
  unfold scheduleRobot
  split <;> simp

@[simp] theorem scheduleContainer_robots (r c : String) :
    (h.scheduleContainer r c).robots = h.robots := by
  unfold scheduleContainer
  split <;> simp

@[simp] theorem wentOffline_robots (rs : List String) : (h.wentOffline rs).robots = h.robots := by
  unfold wentOffline
  induction rs generalizing h with
  | nil => rfl
  | cons r rs ih => exact (ih _).trans (scheduleRobot_robots _ r)

@[simp] theorem hit_robots {α : Type} (r : String) (v : Option α) :
    (h.hit? r v).2.robots = h.robots := by
  unfold hit?
  split
  · split <;> simp
  · rfl

@[simp] theorem reading_robots (r : String) (rd : Reading) : (h.reading? r rd).2.robots = h.robots :=
  hit_robots h r _

@[simp] theorem container_robots (r c : String) : (h.container? r c).2.robots = h.robots := by
  unfold container?
  split
  · split <;> simp
  · rfl

@[simp] theorem isFree_robots (r : String) : (h.isFree r).2.robots = h.robots := by
  simp [isFree]

@[simp] theorem write_robots (task : WriteTask) : (h.write task).2.robots = h.robots := by
  unfold write
  -- every branch leaves the hub as it was or changes only its store
  dsimp only
  repeat' split
  all_goals rfl

@[simp] theorem flush_robots : h.flush.robots = h.robots := by
  unfold flush
  generalize h.queue.batch = tasks
  suffices ∀ h' : Hub, h'.robots = h.robots →
      (tasks.foldl (fun h t =>
        ((h.write t).2.countWrite (if (h.write t).1 then "success" else "failed"))) h').robots =
        h.robots from
    this _ rfl
  induction tasks with
  | nil => exact fun _ h' => h'
  | cons t ts ih => exact fun h' he => ih _ (by simp [he])

open Attempt in
/-- A pickup operation whose attempt keeps a view that ignores the counters keeps what the hub
knows of its robots. -/
theorem runPickup_robots (op : String) {a : Attempt Outcome} (ha : Preserves robots a) :
    (h.runPickup op a).2.robots = h.robots :=
  runPickup_preserves h robots (fun _ _ => rfl) ha op

@[simp] theorem send_robots (o t : String) : (h.send o t).2.robots = h.robots :=
  runPickup_robots h _ (Attempt.preserves_send (fun _ _ => rfl) (fun _ _ => rfl) (fun _ _ => rfl) o t)

@[simp] theorem resend_robots (o t : String) : (h.resend o t).2.robots = h.robots :=
  runPickup_robots h _
    (Attempt.preserves_resend (fun _ _ => rfl) (fun _ _ => rfl) (fun _ _ => rfl) o t)

@[simp] theorem complete_robots (o t : String) : (h.complete o t).2.robots = h.robots :=
  runPickup_robots h _ (Attempt.preserves_complete (fun _ _ _ _ _ _ => rfl) o t)

@[simp] theorem verify_robots (o t c : String) : (h.verify o t c).2.robots = h.robots := by
  rw [verify_hub]
  split
  · rw [release_eq]
    rfl
  · rfl

@[simp] theorem cleanup_robots : h.cleanup.2.robots = h.robots := by
  rw [cleanup_eq]
  split <;> rfl

@[simp] theorem publish_robots (c : Command) : (h.publish c).1.robots = h.robots := by
  unfold publish
  split <;> rfl

/-- Closing a pickup after a container's report leaves what the hub knows of its robots as the
report left it. -/
theorem handle_robots (r : String) (m : Message) : (h.handle r m).2.robots = (h.apply r m).robots := by
  unfold handle
  dsimp only
  split
  · split
    · exact complete_robots _ _ _
    · rfl
  · rfl

/-! ## The liveness operations keep the cache -/

@[simp] theorem markOffline_cache (r : String) : (h.markOffline r).cache = h.cache :=
  congrArg Prod.snd (wentOffline_robots _ _)

@[simp] theorem markAllOffline_cache : h.markAllOffline.2.cache = h.cache :=
  congrArg Prod.snd (wentOffline_robots _ _)

@[simp] theorem sweep_cache : h.sweep.2.cache = h.cache :=
  congrArg Prod.snd (wentOffline_robots _ _)

@[simp] theorem markOffline_tracker (r : String) :
    (h.markOffline r).tracker = (h.tracker.markOffline r).1 :=
  congrArg Prod.fst (wentOffline_robots _ _)

@[simp] theorem markAllOffline_tracker : h.markAllOffline.2.tracker = h.tracker.markAllOffline.1 :=
  congrArg Prod.fst (wentOffline_robots _ _)

@[simp] theorem sweep_tracker : h.sweep.2.tracker = (h.tracker.sweep h.now).1 :=
  congrArg Prod.fst (wentOffline_robots _ _)

end Hub

namespace Console

/-- A move other than routing a message, taking a robot or every robot offline, or a sweep keeps
what the hub knows of its robots. -/
theorem StepMove.robots {h h' : Hub} {step : Json} (hmove : StepMove h step h')
    (hroute : Request.text step "op" ≠ "route") (hoff : Request.text step "op" ≠ "mark_offline")
    (hall : Request.text step "op" ≠ "mark_all_offline")
    (hsweep : Request.text step "op" ≠ "sweep") : h'.robots = h.robots := by
  cases hmove with
  | route hop => exact absurd hop hroute
  | markOffline hop => exact absurd hop hoff
  | markAllOffline hop => exact absurd hop hall
  | sweep hop => exact absurd hop hsweep
  | keep | advance | saveTrip | saveOrder | insertCode | closeStore => rfl
  -- the reads at most schedule a write; the flush, the pickup operations and a publication touch
  -- neither the tracker nor the cache
  | _ => simp

/-- A step other than routing a message, taking a robot or every robot offline, or a sweep keeps
what the hub knows of its robots. -/
theorem runStep_robots (h : Hub) (step : Json) (hroute : Request.text step "op" ≠ "route")
    (hoff : Request.text step "op" ≠ "mark_offline")
    (hall : Request.text step "op" ≠ "mark_all_offline")
    (hsweep : Request.text step "op" ≠ "sweep") :
    (runStep h step).2.robots = h.robots :=
  (runStep_move h step).robots hroute hoff hall hsweep

/-! ## Sessions -/

/-- The message a step of a session accepts from a robot: a routed payload whose topic names the
robot and which decodes as a valid message. -/
def acceptedMessage? (h : Hub) (robot : String) (step : Json) : Option Message :=
  match Request.text step "op", payloadOf step with
  | "route", .ok bytes => h.acceptedFrom? robot (Utf8.encode (Request.text step "topic")) bytes
  | _, _ => none

/-- The hub a session hands from a step to the next: what the step left, with its outbox taken. A
step that is not an object is answered without running. -/
def nextHub (h : Hub) (step : Json) : Hub :=
  match step with
  | .object _ => (runStep h step).2.takeOutbox.2
  | _ => h

/-- The hub a session leaves after its steps. -/
def afterSteps (h : Hub) (steps : List Json) : Hub := steps.foldl nextHub h

theorem nextHub_object (h : Hub) (members : List (String × Json)) :
    nextHub h (.object members) = (runStep h (.object members)).2.takeOutbox.2 := rfl

/-- A routing step leaves what routing its payload leaves, or the hub as it was when its payload
cannot be read. -/
theorem nextHub_route {h : Hub} {members : List (String × Json)}
    (hroute : Request.text (.object members) "op" = "route") :
    nextHub h (.object members) =
      match payloadOf (.object members) with
      | .ok bytes =>
        (h.route (Utf8.encode (Request.text (.object members) "topic")) bytes).2.takeOutbox.2
      | .error _ => h.takeOutbox.2 := by
  simp only [nextHub, runStep, hroute]
  cases payloadOf (.object members) <;> rfl

@[simp] theorem afterSteps_nil (h : Hub) : afterSteps h [] = h := rfl

@[simp] theorem afterSteps_cons (h : Hub) (step : Json) (steps : List Json) :
    afterSteps h (step :: steps) = afterSteps (nextHub h step) steps := rfl

/-- The answers of a session are those of its first steps, then those of the rest run on the hub
the first steps leave. -/
theorem runSteps_append (h : Hub) (steps rest : List Json) :
    runSteps h (steps ++ rest) = runSteps h steps ++ runSteps (afterSteps h steps) rest := by
  induction steps generalizing h with
  | nil => rfl
  | cons step steps ih =>
    cases step <;> simp only [List.cons_append, runSteps, ih, afterSteps_cons, nextHub]

end Console

end DeliveryFleet
