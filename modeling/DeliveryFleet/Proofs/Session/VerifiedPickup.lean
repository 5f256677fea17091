import DeliveryFleet.Proofs.Session.KeyedPairs
import DeliveryFleet.Proofs.Session.OnlineRows

/-!
# A verified pickup over a session

After an accepted verification the pair's pickup can be closed (`Hub.Completable`): the store
finds the pair's order and trip, which belong together, and the pair is completed already or keeps
the verified code row. Every pickup operation keeps this, a cleanup as long as the pair is
completed or the cleanup keeps the row (`Hub.Completable.run`). So does every other step of a
session that leaves the pair's order and trip to the pickup operations (`Console.LeavesPair`):
the reads, the liveness operations, a flush and a publication change nothing that closing the pair
reads (`Hub.pickupRows`), the store writes of other orders and trips and of code rows keep the
pair (`Store.KeepsPair`), and routing a message closes at most some pickup
(`Console.StepMove.completable`). No step changes the settings (`Console.StepMove.settings`).

So after an accepted verification every later completion of the pair answers completed, and a
robot's CLOSED report of its container naming the pair, routed later, closes the pickup and counts
as handled, as long as every cleanup before the pair is completed keeps the accepted row
(`Hub.complete_after_verified`). A cleanup after the accepted row has expired and left the resend
window, with no completion before it, makes a later completion answer that no code was verified
(`Hub.complete_refused_after_cleanup`).
-/

namespace DeliveryFleet

namespace Store

variable {s s' : Store} {o t : String}

/-- `s'` keeps what closing the pair `(o, t)` reads of `s`: it answers when `s` does, files orders
and trips under their codes when `s` does, holds the pair's order and trip as `s` does, and every
code row of `s`. -/
structure KeepsPair (o t : String) (s s' : Store) : Prop where
  closed : s'.closed = s.closed
  keyed : s.PairsKeyed → s'.PairsKeyed
  order : s'.orders[o]? = s.orders[o]?
  trip : s'.trips[t]? = s.trips[t]?
  codes : ∀ r ∈ s.codes, r ∈ s'.codes

theorem KeepsPair.refl (s : Store) : s.KeepsPair o t s := ⟨rfl, id, rfl, rfl, fun _ => id⟩

/-- Saving a trip under another code keeps the pair. -/
theorem keepsPair_saveTrip {code robot container status : String} {n : Nat} (hne : code ≠ t)
    (hs : s.saveTrip code robot container status = .ok (n, s')) : s.KeepsPair o t s' := by
  have hk : s.PairsKeyed → s'.PairsKeyed := fun hk => hk.saveTrip hs
  obtain rfl := eq_of_saveTrip_eq_ok hs
  exact ⟨rfl, hk, rfl, by simp [Std.TreeMap.getElem?_insert, hne], fun _ => id⟩

/-- Saving an order under another code keeps the pair. -/
theorem keepsPair_saveOrder {code email status : String} {tripId : Int} {n : Nat} (hne : code ≠ o)
    (hs : s.saveOrder code tripId email status = .ok (n, s')) : s.KeepsPair o t s' := by
  have hk : s.PairsKeyed → s'.PairsKeyed := fun hk => hk.saveOrder hs
  obtain rfl := eq_of_saveOrder_eq_ok hs
  exact ⟨rfl, hk, by simp [Std.TreeMap.getElem?_insert, hne], rfl, fun _ => id⟩

/-- Inserting a code row keeps the pair. -/
theorem keepsPair_insertCode {row : CodeRow} (hs : s.insertCode row = .ok s') :
    s.KeepsPair o t s' := by
  rw [eq_of_insertCode_eq_ok hs]
  exact ⟨rfl, fun hk => hk.of_pairRows rfl rfl, rfl, rfl, fun _ hr => List.mem_append_left _ hr⟩

end Store

namespace Hub

variable (h : Hub)

/-! ## Operations that change nothing a completion reads -/

/-- What closing a pickup and routing a report to it read of the hub: the settings, whether the
store answers, the orders, the trips and the code rows. -/
def pickupRows (h : Hub) : Settings × Bool × Std.TreeMap String OrderRow compare ×
    Std.TreeMap String TripRow compare × List CodeRow :=
  (h.settings, h.store.closed, h.store.orders, h.store.trips, h.store.codes)

@[simp] theorem scheduleRobot_pickupRows (r : String) :
    (h.scheduleRobot r).pickupRows = h.pickupRows := by
  obtain ⟨n, hn⟩ := scheduleRobot_frame h r
  rw [hn]
  rfl

@[simp] theorem scheduleContainer_pickupRows (r c : String) :
    (h.scheduleContainer r c).pickupRows = h.pickupRows := by
  obtain ⟨n, hn⟩ := scheduleContainer_frame h r c
  rw [hn]
  rfl

@[simp] theorem hit_pickupRows {α : Type} (r : String) (v : Option α) :
    (h.hit? r v).2.pickupRows = h.pickupRows := by
  unfold hit?
  split
  · split <;> simp
  · rfl

@[simp] theorem reading_pickupRows (r : String) (rd : Reading) :
    (h.reading? r rd).2.pickupRows = h.pickupRows :=
  hit_pickupRows h r _

@[simp] theorem container_pickupRows (r c : String) :
    (h.container? r c).2.pickupRows = h.pickupRows := by
  unfold container?
  split
  · split <;> simp
  · rfl

@[simp] theorem isFree_pickupRows (r : String) : (h.isFree r).2.pickupRows = h.pickupRows := by
  simp [isFree]

@[simp] theorem wentOffline_pickupRows (rs : List String) :
    (h.wentOffline rs).pickupRows = h.pickupRows := by
  unfold wentOffline
  induction rs generalizing h with
  | nil => rfl
  | cons r rs ih => exact (ih _).trans (scheduleRobot_pickupRows _ r)

@[simp] theorem markOffline_pickupRows (r : String) :
    (h.markOffline r).pickupRows = h.pickupRows :=
  wentOffline_pickupRows _ _

@[simp] theorem markAllOffline_pickupRows : h.markAllOffline.2.pickupRows = h.pickupRows :=
  wentOffline_pickupRows _ _

@[simp] theorem sweep_pickupRows : h.sweep.2.pickupRows = h.pickupRows :=
  wentOffline_pickupRows _ _

/-- Writing a robot's or a container's row leaves the orders, the trips and the code rows. -/
@[simp] theorem write_pickupRows (task : WriteTask) :
    (h.write task).2.pickupRows = h.pickupRows := by
  cases task with
  | robot id =>
    rw [write_robot]
    split <;> rfl
  | container r c =>
    rw [write_container]
    split
    · rfl
    · split <;> rfl

@[simp] theorem flush_pickupRows : h.flush.pickupRows = h.pickupRows :=
  flush_view h pickupRows (fun g t => write_pickupRows g t) rfl

@[simp] theorem publish_pickupRows (c : Command) : (h.publish c).1.pickupRows = h.pickupRows := by
  unfold publish
  split <;> rfl

variable {h} {h' : Hub} {o t : String} {r : CodeRow}

theorem settings_eq_of_pickupRows (he : h'.pickupRows = h.pickupRows) : h'.settings = h.settings :=
  congrArg Prod.fst he

theorem keepsPair_of_pickupRows (he : h'.pickupRows = h.pickupRows) :
    h.store.KeepsPair o t h'.store := by
  simp only [pickupRows, Prod.mk.injEq] at he
  obtain ⟨-, hclosed, horders, htrips, hcodes⟩ := he
  exact ⟨hclosed, fun hk => hk.of_pairRows horders htrips, by rw [horders], by rw [htrips],
    fun _ hr => hcodes ▸ hr⟩

/-! ## A pickup that can be closed -/

/-- The pair's pickup can be closed: the store finds the pair's order and trip, which belong
together, and the pair is completed already or keeps the verified code row `r`. -/
def Completable (o t : String) (r : CodeRow) (h : Hub) : Prop :=
  h.PairFound o t ∧ (h.PickupDone o t ∨ h.KeepsVerified o t r)

theorem Completable.of_keepsPair (hc : h.Completable o t r) (hk : h.store.KeepsPair o t h'.store) :
    h'.Completable o t r := by
  obtain ⟨⟨hopen, hkeyed, order, trip, ho, ht, hid⟩, hr⟩ := hc
  refine ⟨⟨hk.closed.trans hopen, hk.keyed hkeyed, order, trip, hk.order.trans ho,
    hk.trip.trans ht, hid⟩, ?_⟩
  rcases hr with ⟨order', trip', ho', ht', hos, hts⟩ | ⟨hm, hv⟩
  · exact .inl ⟨order', trip', hk.order.trans ho', hk.trip.trans ht', hos, hts⟩
  · rw [Store.mem_codesOf] at hm
    exact .inr ⟨Store.mem_codesOf.2 ⟨hk.codes _ hm.1, hm.2⟩, hv⟩

theorem Completable.of_store (hc : h.Completable o t r) (hs : h'.store = h.store) :
    h'.Completable o t r :=
  hc.of_keepsPair (hs ▸ .refl _)

/-- A pickup operation keeps a pair closable; a cleanup, when the pair is completed or the cleanup
keeps the row. -/
theorem Completable.run (hc : h.Completable o t r) (op : PickupOp)
    (hclean : op = .cleanup → h.PickupDone o t ∨ h.cleanupKeeps r = true) :
    (op.run h).2.Completable o t r := by
  obtain ⟨hf, hr⟩ := hc
  refine ⟨hf.run op, ?_⟩
  by_cases hd : h.PickupDone o t
  · exact .inl (hd.run hf.keyed op)
  · exact .inr ((hr.resolve_left hd).run op fun hop => (hclean hop).resolve_left hd)

/-- Routing a message keeps a pair closable: it closes at most some pickup. -/
theorem Completable.route (hc : h.Completable o t r) (topic payload : List UInt8) :
    (h.route topic payload).2.Completable o t r := by
  obtain ⟨n, hn⟩ := route_frame h topic payload
  rw [hn]
  split
  · rename_i robot m _
    obtain ⟨n', hn'⟩ := handle_frame (h := h) (r := robot) (m := m)
    rw [hn']
    cases h.settings.closes? m with
    | none => exact hc.of_store rfl
    | some p => exact (hc.run (.complete p.1 p.2) nofun).of_store complete_store.symm
  · exact hc.of_store rfl

/-- A robot's CLOSED report of its container naming a closable pair, routed while completion is
enabled, closes the pair's pickup and counts as handled. -/
theorem Completable.route_closed (hc : h.Completable o t r) {topic payload : List UInt8}
    {robot : String} {v : ContainerState}
    (hm : Route.match? h.settings.root topic = some (.container, robot))
    (hd : Message.decode .container payload = some (.container v o t))
    (hon : h.settings.completer = true) (hclosed : Fold.equalFold v.status closedContainer = true)
    (ho : o ≠ "") (ht : t ≠ "") :
    (h.route topic payload).1 = (Kind.container.name, "handled") ∧
      (h.route topic payload).2.PickupDone o t := by
  -- the report is handled on the hub it was applied to, which finds the pair as `h` does
  have happ : (h.apply robot (.container v o t)).Completable o t r :=
    hc.of_store (apply_store h robot _)
  obtain ⟨hans, hdone⟩ := complete_of_pairFound happ.1 happ.2
  have hguard : ((h.apply robot (.container v o t)).settings.completer &&
      Fold.equalFold v.status closedContainer && !o.isEmpty && !t.isEmpty) = true := by
    simp [apply_settings, hon, hclosed, ho, ht]
  have hhandle : h.handle robot (.container v o t) =
      ("handled", ((h.apply robot (.container v o t)).complete o t).2) := by
    unfold handle
    dsimp only
    rw [if_pos hguard]
    simp only [hans]
    -- a completion that answered completed is no server error
    rfl
  unfold Hub.route
  simp only [hm, hd, hhandle, true_and]
  exact hdone

end Hub

namespace Console

variable {h h' : Hub} {step : Json} {o t : String} {r : CodeRow}

/-! ## Steps of a session -/

/-- No step changes the settings. -/
theorem StepMove.settings (hmove : StepMove h step h') : h'.settings = h.settings := by
  cases hmove with
  | keep | advance | saveTrip | saveOrder | insertCode | closeStore => rfl
  | route => exact Hub.route_settings _ _ _
  | send => exact PickupOp.settings_run (.send _ _)
  | resend => exact PickupOp.settings_run (.resend _ _)
  | verify => exact PickupOp.settings_run (.verify _ _ _)
  | complete => exact PickupOp.settings_run (.complete _ _)
  | cleanup => exact PickupOp.settings_run .cleanup
  -- the reads, the liveness operations, a flush and a publication leave what closing reads
  | _ => exact Hub.settings_eq_of_pickupRows (by simp)

theorem settings_afterSteps (h : Hub) (steps : List Json) :
    (afterSteps h steps).settings = h.settings := by
  induction steps generalizing h with
  | nil => rfl
  | cons step steps ih =>
    refine (ih _).trans ?_
    cases step with
    | object _ => exact (runStep_move h _).settings
    | _ => rfl

/-- A step that leaves the pair's order and trip to the pickup operations: it does not close the
store, and saves no order under `o` and no trip under `t`. -/
def LeavesPair (o t : String) (step : Json) : Prop :=
  Request.text step "op" ≠ "close_store" ∧
    (Request.text step "op" = "save_order" → Request.text step "orderCode" ≠ o) ∧
    (Request.text step "op" = "save_trip" → Request.text step "tripCode" ≠ t)

/-- A move that leaves the pair to the pickup operations keeps it closable; a cleanup, when the
pair is completed or the cleanup keeps the row. -/
theorem StepMove.completable (hmove : StepMove h step h') (hleave : LeavesPair o t step)
    (hclean : Request.text step "op" = "cleanup" → h.PickupDone o t ∨ h.cleanupKeeps r = true)
    (hc : h.Completable o t r) : h'.Completable o t r := by
  cases hmove with
  | keep | advance => exact hc.of_store rfl
  | closeStore hop => exact absurd hop hleave.1
  | route => exact hc.route _ _
  -- the store writes keep the pair, saving only other orders and trips
  | saveTrip hop hs => exact hc.of_keepsPair (Store.keepsPair_saveTrip (hleave.2.2 hop) hs)
  | saveOrder hop hs => exact hc.of_keepsPair (Store.keepsPair_saveOrder (hleave.2.1 hop) hs)
  | insertCode _ hs => exact hc.of_keepsPair (Store.keepsPair_insertCode hs)
  | send => exact hc.run (.send _ _) nofun
  | resend => exact hc.run (.resend _ _) nofun
  | verify => exact hc.run (.verify _ _ _) nofun
  | complete => exact hc.run (.complete _ _) nofun
  | cleanup hop => exact hc.run .cleanup fun _ => hclean hop
  -- the reads, the liveness operations, a flush and a publication change nothing closing reads
  | _ => exact hc.of_keepsPair (Hub.keepsPair_of_pickupRows (by simp))

/-- Every step of a session from `h` leaves the pair's order and trip to the pickup operations,
and every cleanup runs while the pair is completed or keeps the code row `r`. -/
def KeepsPickup (o t : String) (r : CodeRow) : Hub → List Json → Prop
  | _, [] => True
  | h, step :: steps => LeavesPair o t step ∧
      (Request.text step "op" = "cleanup" → h.PickupDone o t ∨ h.cleanupKeeps r = true) ∧
      KeepsPickup o t r (nextHub h step) steps

@[simp] theorem keepsPickup_markRow (o' t' c' : String) (stamp : Int) (h : Hub)
    (steps : List Json) :
    KeepsPickup o t (Store.markRow o' t' c' stamp r) h steps ↔ KeepsPickup o t r h steps := by
  induction steps generalizing h with
  | nil => rfl
  | cons step steps ih => simp [KeepsPickup, ih]

/-- A session that leaves the pair to the pickup operations, and cleans up only while the pair is
completed or keeps the row, keeps the pair closable. -/
theorem completable_afterSteps (hc : h.Completable o t r) (steps : List Json)
    (hkeep : KeepsPickup o t r h steps) : (afterSteps h steps).Completable o t r := by
  induction steps generalizing h with
  | nil => exact hc
  | cons step steps ih =>
    obtain ⟨hleave, hclean, hrest⟩ := hkeep
    refine ih ?_ hrest
    cases step with
    | object _ => exact ((runStep_move h _).completable hleave hclean hc).of_store rfl
    | _ => exact hc

end Console

namespace Hub

variable {h : Hub} {o t c : String}

/-- After an accepted verification of a pair that the store can close, every later completion of
the pair answers completed, as long as every cleanup before the first of them keeps the accepted
row: it runs before the row has expired, or within the resend window of its creation. And over a
session that leaves the pair's order and trip to the pickup operations and cleans up only while
the pair is completed or keeps the accepted row, a robot's CLOSED report of its container naming
the pair, routed while completion is enabled, closes the pickup and counts as handled. -/
theorem complete_after_verified (h : Hub) (o t c : String) (hf : h.PairFound o t)
    (hv : (h.verify o t c).1 = .verified) :
    (∀ ops : List PickupOp,
      (∀ otp, h.store.latestUnverified o t c = .ok (some otp) →
        cleanupsKeep o t otp (h.verify o t c).2 ops = true) →
      (((h.verify o t c).2.exec ops).complete o t).1 = .completed) ∧
    ∀ steps : List Json,
      (∀ otp, h.store.latestUnverified o t c = .ok (some otp) →
        Console.KeepsPickup o t otp (h.verify o t c).2 steps) →
      ∀ (topic payload : List UInt8) (robot : String) (v : ContainerState),
        Route.match? h.settings.root topic = some (.container, robot) →
        Message.decode .container payload = some (.container v o t) →
        h.settings.completer = true → Fold.equalFold v.status closedContainer = true →
        o ≠ "" → t ≠ "" →
        ((Console.afterSteps (h.verify o t c).2 steps).route topic payload).1 =
            (Kind.container.name, "handled") ∧
          ((Console.afterSteps (h.verify o t c).2 steps).route topic payload).2.PickupDone o t := by
  obtain ⟨otp, ha⟩ := verify_eq_verified_iff.1 hv
  -- the verification leaves the pair closable, keeping the accepted row marked verified
  have hc : (h.verify o t c).2.Completable o t (Store.markRow o t c h.now.toStored otp) :=
    ⟨hf.run (.verify o t c), .inr (keepsVerified_verify ha)⟩
  refine ⟨fun ops hkeep => ?_,
    fun steps hkeep topic payload robot v hm hd hon hclosed ho ht => ?_⟩
  · have hrun := closable_exec hc.1 hc.2 ops
      (by rw [cleanupsKeep_markRow]; exact hkeep otp ha.candidate)
    exact (complete_of_pairFound hrun.1 hrun.2).1
  · have hsession := Console.completable_afterSteps hc steps
      ((Console.keepsPickup_markRow o t c _ _ steps).2 (hkeep otp ha.candidate))
    -- the session keeps the settings the report is routed under
    have hset : (Console.afterSteps (h.verify o t c).2 steps).settings = h.settings :=
      (Console.settings_afterSteps _ steps).trans (PickupOp.settings_run (.verify o t c))
    exact hsession.route_closed (hset ▸ hm) hd (hset ▸ hon) hclosed ho ht

/-- A cleanup, then a sweep. -/
def pickupDemoSession : List Json :=
  [.object [("op", .string "cleanup")], .object [("op", .string "sweep")]]

/-- Robot `R1` reports its container `C1` closed for order `O1` and trip `T1`. -/
def pickupDemoReport : List UInt8 :=
  Utf8.encode
    "\x7b\"containerCode\":\"C1\",\"status\":\"closed\",\"orderCode\":\"O1\",\"tripCode\":\"T1\"\x7d"

/-- A code accepted, a cleanup within its lifetime, a completion, and a cleanup once the code has
expired and left the resend window: a completion after all that still answers completed. And a
code accepted, a cleanup, a sweep, and the robot's report that the container is closed: the report
closes the pickup. -/
theorem complete_after_verified_demo :
    let h := ((pickupDemo (Instant.ofCivil 2024 1 1 0 0 0 0) ["111111"]).send "O1" "T1").2
    (h.verify "O1" "T1" "111111").1 = .verified ∧
      (((h.verify "O1" "T1" "111111").2.exec [.advance 300000000000, .cleanup, .complete "O1" "T1",
        .advance 360000000000, .cleanup]).complete "O1" "T1").1 = .completed ∧
      ((Console.afterSteps (h.verify "O1" "T1" "111111").2 pickupDemoSession).route
          (Utf8.encode "robot/R1/container") pickupDemoReport).1 = (Kind.container.name, "handled") ∧
      ((Console.afterSteps (h.verify "O1" "T1" "111111").2 pickupDemoSession).route
          (Utf8.encode "robot/R1/container") pickupDemoReport).2.PickupDone "O1" "T1" := by
  intro h
  have hv : (h.verify "O1" "T1" "111111").1 = .verified := by decide
  have hthm := complete_after_verified h "O1" "T1" "111111"
    ((pickupDemo_pairFound (Instant.ofCivil 2024 1 1 0 0 0 0) ["111111"]).run (.send "O1" "T1")) hv
  -- the accepted row is the newest unverified row of the pair carrying the code
  have hrow : ∀ otp, h.store.latestUnverified "O1" "T1" "111111" = .ok (some otp) →
      otp ∈ newest? ((h.store.codesOf "O1" "T1").filter
        fun r => !r.verified && r.code == "111111") := by
    intro otp hotp
    rw [Store.latestUnverified_of_open (by decide)] at hotp
    exact Except.ok.inj hotp
  have hops : ∀ x ∈ newest? ((h.store.codesOf "O1" "T1").filter
      fun r => !r.verified && r.code == "111111"),
      cleanupsKeep "O1" "T1" x (h.verify "O1" "T1" "111111").2 [.advance 300000000000, .cleanup,
        .complete "O1" "T1", .advance 360000000000, .cleanup] = true := by decide
  have hsession : ∀ x ∈ newest? ((h.store.codesOf "O1" "T1").filter
      fun r => !r.verified && r.code == "111111"),
      (h.verify "O1" "T1" "111111").2.cleanupKeeps x = true := by decide
  have hmatch : Route.match? h.settings.root (Utf8.encode "robot/R1/container") =
      some (.container, "R1") := by decide +kernel
  have hdecode : Message.decode .container pickupDemoReport =
      some (.container ⟨"C1", "closed"⟩ "O1" "T1") := by with_unfolding_all rfl
  obtain ⟨hroute, hdone⟩ := hthm.2 pickupDemoSession
    (fun otp hotp => ⟨⟨by decide, by decide, by decide⟩,
      fun _ => .inr (hsession otp (hrow otp hotp)),
      ⟨by decide, by decide, by decide⟩, fun hop => absurd hop (by decide), trivial⟩)
    _ _ "R1" ⟨"C1", "closed"⟩ hmatch hdecode (by decide) (by decide +kernel)
    (by decide) (by decide)
  exact ⟨hv, hthm.1 _ fun otp hotp => hops otp (hrow otp hotp), hroute, hdone⟩

/-- A code accepted, then the clock past its expiry and the resend window, and a cleanup: a later
completion finds no verified code, though nothing touched the order or the trip. -/
theorem complete_refused_after_cleanup :
    let h := ((pickupDemo (Instant.ofCivil 2024 1 1 0 0 0 0) ["111111"]).send "O1" "T1").2
    h.PairFound "O1" "T1" ∧ (h.verify "O1" "T1" "111111").1 = .verified ∧
      (((h.verify "O1" "T1" "111111").2.exec [.advance 660000000000, .cleanup]).complete
        "O1" "T1").1 = .notVerified :=
  ⟨(pickupDemo_pairFound (Instant.ofCivil 2024 1 1 0 0 0 0) ["111111"]).run (.send "O1" "T1"),
    by decide, by decide⟩

end Hub

end DeliveryFleet
