import DeliveryFleet.Proofs.Telemetry.WriteThrough
import DeliveryFleet.Proofs.Session.Frame

/-!
# Durable rows over a session

A flush writes each waiting row from the hub as the flush found it
(`Hub.flush_robotRow_of_pending`), while the hub is ready to write through (`Hub.WriteReady`): the
store files rows under their codes, every container whose write waits has a cached state, and the
robots of cached containers have ids without `/`, as ids read from topics never do
(`Route.robot_plain`).

A fresh hub is ready, and every step keeps it so (`Console.writeReady_runStep`). A step other
than routing, a container read or a flush changes nothing readiness reads
(`Console.runStep_writeInputs`); routing caches containers only of the robot its topic names, a container read schedules only a
container it found cached, and a flush empties the queue and files each row it writes under the
row's codes.

So in a session from a fresh hub, a flush on an open store gives every robot and container whose
write waits the row refreshed from the hub at the flush, however many of its writes were coalesced
or dropped, and keeps every other row (`Console.flush_writes_through`).
-/

namespace DeliveryFleet

/-- A robot named by a topic has an id without `/`. -/
theorem Route.robot_plain {root : String} {topic : List UInt8} {k : Kind} {r : String}
    (hm : Route.match? root topic = some (k, r)) : '/' ∉ r.toList := by
  obtain ⟨k', -, hk⟩ := List.exists_of_findSome?_eq_some hm
  obtain ⟨r', hr', hkr⟩ := Option.map_eq_some_iff.1 hk
  cases hkr
  unfold Kind.robotIn? at hr'
  dsimp only at hr'
  split at hr'
  · split at hr'
    · cases hr'
    · rename_i hslash
      cases hr'
      simpa [String.toList_ofList] using hslash
  · cases hr'

/-- The container whose row a task writes, if it writes one. -/
def WriteTask.containerKey? : WriteTask → Option (String × String)
  | .robot _ => none
  | .container r c => some (r, c)

theorem WriteTask.mem_filterMap_containerKey? {l : List WriteTask} {r c : String} :
    (r, c) ∈ l.filterMap containerKey? ↔ .container r c ∈ l := by
  rw [List.mem_filterMap]
  constructor
  · rintro ⟨t, ht, hk⟩
    cases t with
    | robot _ => cases hk
    | container r' c' =>
      cases hk
      exact ht
  · intro ht
    exact ⟨_, ht, rfl⟩

theorem Cache.container?_congr {c c' : Cache} (he : c'.containers = c.containers) :
    c'.container? = c.container? := by
  funext r code
  simp only [Cache.container?, Cache.containersOf, he]

theorem Store.containerRow_congr {s s' : Store} (he : s'.containers = s.containers) :
    s'.containerRow = s.containerRow := by
  funext r c
  simp only [Store.containerRow, he]

namespace Hub

/-- What readiness to write through reads of a hub: the rows of the store, the cached container
states, and the containers whose writes wait. -/
def writeInputs (h : Hub) :
    Std.TreeMap String RobotRow compare ×
      Std.TreeMap String (Std.TreeMap String ContainerRow compare) compare ×
      ByRobot (Std.TreeMap String ContainerState compare) × List (String × String) :=
  (h.store.robots, h.store.containers, h.cache.containers,
    h.queue.pending.filterMap WriteTask.containerKey?)

/-- A hub ready to write through: the store files rows under their codes, every container whose
write waits has a cached state, and cached containers are of robots whose ids hold no `/`. -/
structure WriteReady (h : Hub) : Prop where
  keyed : h.store.Keyed
  cached : ∀ r c, WriteTask.container r c ∈ h.queue.pending → ∃ v, h.cache.container? r c = some v
  plain : ∀ r c v, h.cache.container? r c = some v → '/' ∉ r.toList

/-- Readiness reads only the rows of the store, the cached containers and the waiting container
writes. -/
theorem WriteReady.of_writeInputs {h h' : Hub} (hr : h.WriteReady)
    (he : h'.writeInputs = h.writeInputs) : h'.WriteReady := by
  simp only [writeInputs, Prod.mk.injEq] at he
  obtain ⟨hrobots, hcont, hcache, htasks⟩ := he
  have hc : h'.cache.container? = h.cache.container? := Cache.container?_congr hcache
  refine ⟨⟨?_, ?_⟩, ?_, ?_⟩
  · rw [hrobots]
    exact hr.keyed.robot
  · rw [Store.containerRow_congr hcont]
    exact hr.keyed.container
  · intro r c ht
    rw [hc]
    have ht' : (r, c) ∈ h'.queue.pending.filterMap WriteTask.containerKey? :=
      WriteTask.mem_filterMap_containerKey?.2 ht
    exact hr.cached r c (WriteTask.mem_filterMap_containerKey?.1 (htasks ▸ ht'))
  · rw [hc]
    exact hr.plain

/-- A fresh hub is ready to write through: it holds no rows, no cached state and no task. -/
theorem writeReady_fresh (settings : Settings) (now : Instant) (timeout : Int) (capacity : Nat)
    (codes : List String) : (Hub.fresh settings now timeout capacity codes).WriteReady where
  keyed :=
    ⟨fun _ _ h => by simp [fresh] at h, fun _ _ _ h => by simp [fresh, Store.containerRow] at h⟩
  cached _ _ h := by simp [fresh] at h
  plain _ _ _ h := by simp [fresh, Cache.container?, Cache.containersOf] at h

variable (h : Hub)

/-! ## Steps that keep what readiness reads -/

@[simp] theorem countMessage_writeInputs (k r : String) :
    (h.countMessage k r).writeInputs = h.writeInputs := rfl
@[simp] theorem countWrite_writeInputs (r : String) :
    (h.countWrite r).writeInputs = h.writeInputs := rfl
@[simp] theorem takeOutbox_writeInputs : h.takeOutbox.2.writeInputs = h.writeInputs := rfl

@[simp] theorem push_robot_writeInputs (r : String) :
    (h.push (.robot r)).writeInputs = h.writeInputs := by
  unfold push WriteQueue.push
  by_cases hl : h.queue.pending.length < h.queue.capacity
  · simp [hl, writeInputs, WriteTask.containerKey?]
  · simp [hl, writeInputs, countWrite]

@[simp] theorem scheduleRobot_writeInputs (r : String) :
    (h.scheduleRobot r).writeInputs = h.writeInputs := by
  unfold scheduleRobot
  split <;> simp

@[simp] theorem wentOffline_writeInputs (rs : List String) :
    (h.wentOffline rs).writeInputs = h.writeInputs := by
  unfold wentOffline
  induction rs generalizing h with
  | nil => rfl
  | cons r rs ih => exact (ih _).trans (scheduleRobot_writeInputs _ r)

@[simp] theorem hit_writeInputs {α : Type} (r : String) (v : Option α) :
    (h.hit? r v).2.writeInputs = h.writeInputs := by
  unfold hit?
  split
  · split <;> simp
  · rfl

@[simp] theorem reading_writeInputs (r : String) (rd : Reading) :
    (h.reading? r rd).2.writeInputs = h.writeInputs :=
  hit_writeInputs h r _

@[simp] theorem isFree_writeInputs (r : String) : (h.isFree r).2.writeInputs = h.writeInputs := by
  simp [isFree]

@[simp] theorem markOffline_writeInputs (r : String) :
    (h.markOffline r).writeInputs = h.writeInputs :=
  wentOffline_writeInputs _ _

@[simp] theorem markAllOffline_writeInputs : h.markAllOffline.2.writeInputs = h.writeInputs :=
  wentOffline_writeInputs _ _

@[simp] theorem sweep_writeInputs : h.sweep.2.writeInputs = h.writeInputs :=
  wentOffline_writeInputs _ _

@[simp] theorem touch_writeInputs (r : String) : (h.touch r).writeInputs = h.writeInputs :=
  scheduleRobot_writeInputs _ r

@[simp] theorem heartbeat_writeInputs (r : String) (alive : Bool) :
    (h.heartbeat r alive).writeInputs = h.writeInputs := by
  unfold heartbeat
  split
  · exact touch_writeInputs _ r
  · exact wentOffline_writeInputs _ _

/-- A message other than a container's report keeps what readiness reads. -/
theorem apply_writeInputs (r : String) {m : Message} (hm : ∀ v o t, m ≠ .container v o t) :
    (h.apply r m).writeInputs = h.writeInputs := by
  cases m with
  | container v o t => exact absurd rfl (hm v o t)
  | heartbeat alive => exact heartbeat_writeInputs h r alive
  | _ => exact touch_writeInputs _ r

open Attempt in
theorem runPickup_writeInputs (op : String) {a : Attempt Outcome} (ha : Preserves writeInputs a) :
    (h.runPickup op a).2.writeInputs = h.writeInputs :=
  runPickup_preserves h writeInputs (fun _ _ => rfl) ha op

@[simp] theorem send_writeInputs (o t : String) : (h.send o t).2.writeInputs = h.writeInputs :=
  runPickup_writeInputs h _
    (Attempt.preserves_send (fun _ _ => rfl) (fun _ _ => rfl) (fun _ _ => rfl) o t)

@[simp] theorem resend_writeInputs (o t : String) : (h.resend o t).2.writeInputs = h.writeInputs :=
  runPickup_writeInputs h _
    (Attempt.preserves_resend (fun _ _ => rfl) (fun _ _ => rfl) (fun _ _ => rfl) o t)

@[simp] theorem complete_writeInputs (o t : String) :
    (h.complete o t).2.writeInputs = h.writeInputs :=
  runPickup_writeInputs h _
    (Attempt.preserves_complete (fun _ _ _ _ hr hc => by simp [writeInputs, hr, hc]) o t)

@[simp] theorem verify_writeInputs (o t c : String) :
    (h.verify o t c).2.writeInputs = h.writeInputs := by
  rw [verify_hub]
  split
  · rw [release_eq]
    rfl
  · rfl

@[simp] theorem cleanup_writeInputs : h.cleanup.2.writeInputs = h.writeInputs := by
  rw [cleanup_eq]
  split <;> rfl

@[simp] theorem publish_writeInputs (c : Command) :
    (h.publish c).1.writeInputs = h.writeInputs := by
  unfold publish
  split <;> rfl

/-! ## Steps that add container writes, and a flush -/

@[simp] theorem push_store (t : WriteTask) : (h.push t).store = h.store := by
  unfold push
  split
  split <;> rfl

/-- A push adds at most its own task to the queue. -/
theorem mem_push_pending {t u : WriteTask} (hu : u ∈ (h.push t).queue.pending) :
    u ∈ h.queue.pending ∨ u = t := by
  unfold push WriteQueue.push at hu
  by_cases hl : h.queue.pending.length < h.queue.capacity
  · simpa [hl] using hu
  · simp only [hl, if_false] at hu
    exact .inl hu

variable {h}

/-- Scheduling the write of a cached container keeps a hub ready. -/
theorem WriteReady.scheduleContainer (hr : h.WriteReady) {r c : String}
    (hv : ∃ v, h.cache.container? r c = some v) : (h.scheduleContainer r c).WriteReady := by
  unfold Hub.scheduleContainer
  split
  · have hcache : (h.push (.container r c)).cache = h.cache := congrArg Prod.snd (push_robots h _)
    refine ⟨(push_store h _).symm ▸ hr.keyed, fun r' c' ht => ?_, ?_⟩
    · rw [hcache]
      rcases mem_push_pending h ht with ht | ht
      · exact hr.cached r' c' ht
      · cases ht
        exact hv
    · rw [hcache]
      exact hr.plain
  · exact hr

/-- Caching a container of a robot whose id holds no `/` keeps a hub ready. -/
theorem WriteReady.withContainer (hr : h.WriteReady) {r : String} (hplain : '/' ∉ r.toList)
    (v : ContainerState) : (h.withCache (·.putContainer r v)).WriteReady where
  keyed := hr.keyed
  cached r' c' ht := by
    obtain ⟨v', hv'⟩ := hr.cached r' c' ht
    simp only [withCache, Cache.container?_putContainer]
    split
    · exact ⟨v, rfl⟩
    · exact ⟨v', hv'⟩
  plain r' c' v' hv' := by
    simp only [withCache, Cache.container?_putContainer] at hv'
    split at hv'
    · rename_i hrc
      rw [← hrc.1]
      exact hplain
    · exact hr.plain r' c' v' hv'

theorem WriteReady.putContainer (hr : h.WriteReady) {r : String} (hplain : '/' ∉ r.toList)
    (v : ContainerState) : (h.putContainer r v).WriteReady := by
  have hc : (h.withCache (·.putContainer r v)).WriteReady := hr.withContainer hplain v
  unfold Hub.putContainer
  dsimp only
  apply WriteReady.scheduleContainer
  · exact hc.of_writeInputs rfl
  · exact ⟨v, by simp [withCache, Cache.container?_putContainer]⟩

/-- A message from a robot whose id holds no `/` keeps a hub ready. -/
theorem WriteReady.apply (hr : h.WriteReady) {r : String} (hplain : '/' ∉ r.toList) (m : Message) :
    (h.apply r m).WriteReady := by
  cases m with
  | container v o t => exact hr.putContainer hplain v
  | _ => exact hr.of_writeInputs (apply_writeInputs h r fun _ _ _ => Message.noConfusion)

theorem WriteReady.handle (hr : h.WriteReady) {r : String} (hplain : '/' ∉ r.toList)
    (m : Message) : (h.handle r m).2.WriteReady := by
  have ha := hr.apply hplain m
  unfold Hub.handle
  dsimp only
  split
  · split
    · exact ha.of_writeInputs (complete_writeInputs _ _ _)
    · exact ha
  · exact ha

/-- Routing a message keeps a hub ready: the robot its topic names has an id without `/`. -/
theorem WriteReady.route (hr : h.WriteReady) (topic payload : List UInt8) :
    (h.route topic payload).2.WriteReady := by
  unfold Hub.route
  rcases hm : Route.match? h.settings.root topic with _ | ⟨k, r⟩
  · exact hr.of_writeInputs rfl
  · have hplain := Route.robot_plain hm
    dsimp only
    cases Message.decode k payload with
    | none => exact hr.of_writeInputs rfl
    | some m => exact (hr.handle hplain m).of_writeInputs rfl

/-- Reading a container schedules its write only when it is cached. -/
theorem WriteReady.container (hr : h.WriteReady) (r c : String) :
    (h.container? r c).2.WriteReady := by
  unfold Hub.container?
  split
  · split
    · rename_i v hv
      exact hr.scheduleContainer ⟨v, hv⟩
    · exact hr
  · exact hr

/-- A flush keeps a hub ready: it files rows under their codes and empties the queue. -/
theorem WriteReady.flush (hr : h.WriteReady) : h.flush.WriteReady := by
  have hcache : h.flush.cache = h.cache := congrArg Prod.snd (flush_robots h)
  refine ⟨flush_keyed h hr.keyed, fun r c ht => ?_, ?_⟩
  · rw [flush_queue] at ht
    cases ht
  · rw [hcache]
    exact hr.plain

end Hub

namespace Console

theorem store_writeInputs {h : Hub} {s : Store} (hrows : s.robots = h.store.robots ∧
    s.containers = h.store.containers) : ({ h with store := s } : Hub).writeInputs = h.writeInputs := by
  simp [Hub.writeInputs, hrows.1, hrows.2]

/-- A move other than routing a message, reading a container or a flush keeps what readiness to
write through reads. -/
theorem StepMove.writeInputs {h h' : Hub} {step : Json} (hmove : StepMove h step h')
    (hroute : Request.text step "op" ≠ "route")
    (hcont : Request.text step "op" ≠ "get_container") (hflush : Request.text step "op" ≠ "flush") :
    h'.writeInputs = h.writeInputs := by
  cases hmove with
  | route hop => exact absurd hop hroute
  | container hop => exact absurd hop hcont
  | flush hop => exact absurd hop hflush
  | keep | advance | closeStore => rfl
  -- the store writes keep the robot and container rows
  | saveTrip _ hs => exact store_writeInputs (Store.saveTrip_keeps_rows hs)
  | saveOrder _ hs => exact store_writeInputs (Store.saveOrder_keeps_rows hs)
  | insertCode _ hs =>
    rw [Store.eq_of_insertCode_eq_ok hs]
    rfl
  -- the reads at most schedule robot writes; the pickup operations and a publication write no
  -- robot or container row
  | _ => simp

/-- A step other than routing a message, reading a container or a flush keeps what readiness to
write through reads. -/
theorem runStep_writeInputs (h : Hub) (step : Json) (hroute : Request.text step "op" ≠ "route")
    (hcont : Request.text step "op" ≠ "get_container") (hflush : Request.text step "op" ≠ "flush") :
    (runStep h step).2.writeInputs = h.writeInputs :=
  (runStep_move h step).writeInputs hroute hcont hflush

/-- Every step keeps a hub ready to write through. -/
theorem writeReady_runStep {h : Hub} (hr : h.WriteReady) (step : Json) :
    (runStep h step).2.WriteReady := by
  by_cases hroute : Request.text step "op" = "route"
  · simp only [runStep, hroute]
    cases payloadOf step with
    | error _ => exact hr
    | ok bytes => exact hr.route _ bytes
  by_cases hcont : Request.text step "op" = "get_container"
  · simp only [runStep, hcont]
    exact hr.container _ _
  by_cases hflush : Request.text step "op" = "flush"
  · simp only [runStep, hflush]
    exact hr.flush
  exact hr.of_writeInputs (runStep_writeInputs h step hroute hcont hflush)

theorem writeReady_nextHub {h : Hub} (hr : h.WriteReady) (step : Json) :
    (nextHub h step).WriteReady := by
  cases step with
  | object _ => exact (writeReady_runStep hr _).of_writeInputs rfl
  | _ => exact hr

/-- A session keeps a hub ready to write through. -/
theorem writeReady_afterSteps {h : Hub} (hr : h.WriteReady) (steps : List Json) :
    (afterSteps h steps).WriteReady := by
  induction steps generalizing h with
  | nil => exact hr
  | cons step steps ih => exact ih (writeReady_nextHub hr step)

/-- In a session from a fresh hub, a flush on an open store gives every robot whose write waits
its row, or a blank row of the robot, refreshed from the hub at the flush; gives every container
whose write waits its row with the cached status and the clock; and keeps every other row. -/
theorem flush_writes_through (settings : Settings) (now : Instant) (timeout : Int)
    (capacity : Nat) (codes : List String) (steps : List Json)
    (hopen : (afterSteps (Hub.fresh settings now timeout capacity codes) steps).store.closed =
      false) :
    let h := afterSteps (Hub.fresh settings now timeout capacity codes) steps
    (∀ robot, .robot robot ∈ h.queue.pending →
      h.flush.store.robots[robot]? =
        some ((h.store.robots[robot]?.getD { code := robot }).refreshed (h.cache.readings robot)
          (h.isOnline robot) (h.tracker.lastSeen? robot) h.now)) ∧
    (∀ robot code, .container robot code ∈ h.queue.pending →
      ∃ v, h.cache.container? robot code = some v ∧
        h.flush.store.containerRow robot code =
          some (((h.store.containerRow robot code).getD
            { robotCode := robot, containerCode := code }).refreshed v h.now)) ∧
    (∀ robot, .robot robot ∉ h.queue.pending →
      h.flush.store.robots[robot]? = h.store.robots[robot]?) ∧
    (∀ robot code, .container robot code ∉ h.queue.pending →
      h.flush.store.containerRow robot code = h.store.containerRow robot code) := by
  intro h
  have hr : h.WriteReady := writeReady_afterSteps (Hub.writeReady_fresh _ _ _ _ _) steps
  -- the waiting container writes are of cached containers, so of robots whose ids hold no `/`
  have hplain : ∀ r c, .container r c ∈ h.queue.pending → '/' ∉ r.toList := fun r c ht =>
    let ⟨v, hv⟩ := hr.cached r c ht
    hr.plain r c v hv
  refine ⟨fun robot hp => ?_, fun robot code hp => ?_, fun robot hp => ?_, fun robot code hp => ?_⟩
  · exact h.flush_robotRow_of_pending hr.keyed hopen hp
  · obtain ⟨v, hv⟩ := hr.cached robot code hp
    exact ⟨v, hv, h.flush_containerRow_of_pending hr.keyed hopen hplain hp hv⟩
  · exact h.flush_robotRow_of_not_pending hr.keyed hp
  · exact h.flush_containerRow_of_not_pending hr.keyed hp

/-- After one heartbeat the robot's write waits, and a flush writes its row. -/
theorem flush_writes_through_after_heartbeat :
    let h := afterSteps (Hub.fresh {} (Instant.ofCivil 2024 1 1 0 0 0 0) 30000000000 5000 [])
      [.object [("op", .string "route"), ("topic", .string "robot/R1/heartbeat"),
        ("payload", .string "")]]
    h.store.closed = false ∧ WriteTask.robot "R1" ∈ h.queue.pending ∧
      h.flush.store.robots["R1"]? =
        some ((h.store.robots["R1"]?.getD { code := "R1" }).refreshed (h.cache.readings "R1")
          (h.isOnline "R1") (h.tracker.lastSeen? "R1") h.now) := by
  intro h
  have hopen : h.store.closed = false := by decide +kernel
  have hk : h.queue.pending.map WriteTask.key = [(WriteTask.robot "R1").key] := by decide +kernel
  obtain ⟨t, hq, ht⟩ := List.map_eq_singleton_iff.1 hk
  have hp : WriteTask.robot "R1" ∈ h.queue.pending := by
    rw [hq, WriteTask.key_eq_robot_iff.1 ht]
    exact List.mem_singleton_self _
  exact ⟨hopen, hp, (flush_writes_through _ _ _ _ _ _ hopen).1 "R1" hp⟩

end Console

end DeliveryFleet
