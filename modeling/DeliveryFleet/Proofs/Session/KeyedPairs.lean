import DeliveryFleet.Proofs.Pickup.Closing
import DeliveryFleet.Proofs.Telemetry.WriteThrough

/-!
# Orders and trips stay under their codes

Saving an order or a trip files it under its own code, and closing a pair saves its rows again,
so every store a session reaches files each order and trip under its own code
(`Console.pairsKeyed_after_session`): the condition under which `Hub.complete_closes_pair` describes
a completion. Beyond saving and closing, no operation touches the orders and the trips
(`Hub.pairRows`).
-/

namespace DeliveryFleet

namespace Store

variable {s s' : Store}

namespace PairsKeyed

theorem of_pairRows (hk : s.PairsKeyed) (ho : s'.orders = s.orders) (ht : s'.trips = s.trips) :
    s'.PairsKeyed :=
  hk.of_completesOnly (.of_eq ho ht)

/-- Saving an order files it under its own code. -/
theorem saveOrder (hk : s.PairsKeyed) {code email status : String} {tripId : Int} {id : Nat}
    (he : s.saveOrder code tripId email status = .ok (id, s')) : s'.PairsKeyed := by
  obtain rfl := eq_of_saveOrder_eq_ok he
  refine ⟨fun k row hr => ?_, hk.trip⟩
  by_cases hkc : code = k
  · subst hkc
    simp only [Std.TreeMap.getElem?_insert_self, Option.some.injEq] at hr
    rw [← hr]
  · rw [Std.TreeMap.getElem?_insert, if_neg (by simpa using hkc)] at hr
    exact hk.order k row hr

/-- Saving a trip files it under its own code. -/
theorem saveTrip (hk : s.PairsKeyed) {code robot container status : String} {id : Nat}
    (he : s.saveTrip code robot container status = .ok (id, s')) : s'.PairsKeyed := by
  obtain rfl := eq_of_saveTrip_eq_ok he
  refine ⟨hk.order, fun k row hr => ?_⟩
  by_cases hkc : code = k
  · subst hkc
    simp only [Std.TreeMap.getElem?_insert_self, Option.some.injEq] at hr
    rw [← hr]
  · rw [Std.TreeMap.getElem?_insert, if_neg (by simpa using hkc)] at hr
    exact hk.trip k row hr

theorem closeOrder (hk : s.PairsKeyed) (order : OrderRow) : (s.closeOrder order).PairsKeyed := by
  unfold Store.closeOrder
  split
  · exact hk
  · split
    · rename_i he
      exact hk.saveOrder he
    · exact hk

theorem closeTrip (hk : s.PairsKeyed) (trip : TripRow) : (s.closeTrip trip).PairsKeyed := by
  unfold Store.closeTrip
  split
  · exact hk
  · split
    · rename_i he
      exact hk.saveTrip he
    · exact hk

theorem closePair (hk : s.PairsKeyed) (o t : String) : (s.closePair o t).PairsKeyed := by
  rcases closePair_cases (s := s) o t with he | ⟨order, trip, -, -, -, he⟩
  · rw [he]
    exact hk
  · rw [he]
    exact (hk.closeOrder order).closeTrip trip

theorem closeFor (hk : s.PairsKeyed) (c : Option (String × String)) : (s.closeFor c).PairsKeyed := by
  cases c with
  | none => exact hk
  | some p => exact hk.closePair p.1 p.2

end PairsKeyed

end Store

namespace Hub

variable (h : Hub)

/-! ## Operations that keep the orders and the trips -/

@[simp] theorem countMessage_pairRows (k r : String) : (h.countMessage k r).pairRows = h.pairRows := rfl
@[simp] theorem countWrite_pairRows (r : String) : (h.countWrite r).pairRows = h.pairRows := rfl
@[simp] theorem takeOutbox_pairRows : h.takeOutbox.2.pairRows = h.pairRows := rfl

@[simp] theorem push_pairRows (t : WriteTask) : (h.push t).pairRows = h.pairRows := by
  unfold push
  split
  split <;> rfl

@[simp] theorem scheduleRobot_pairRows (r : String) : (h.scheduleRobot r).pairRows = h.pairRows := by
  unfold scheduleRobot
  split <;> simp

@[simp] theorem scheduleContainer_pairRows (r c : String) :
    (h.scheduleContainer r c).pairRows = h.pairRows := by
  unfold scheduleContainer
  split <;> simp

@[simp] theorem wentOffline_pairRows (rs : List String) : (h.wentOffline rs).pairRows = h.pairRows := by
  unfold wentOffline
  induction rs generalizing h with
  | nil => rfl
  | cons r rs ih => exact (ih _).trans (scheduleRobot_pairRows _ r)

@[simp] theorem hit_pairRows {α : Type} (r : String) (v : Option α) :
    (h.hit? r v).2.pairRows = h.pairRows := by
  unfold hit?
  split
  · split <;> simp
  · rfl

@[simp] theorem reading_pairRows (r : String) (rd : Reading) :
    (h.reading? r rd).2.pairRows = h.pairRows :=
  hit_pairRows h r _

@[simp] theorem container_pairRows (r c : String) : (h.container? r c).2.pairRows = h.pairRows := by
  unfold container?
  split
  · split <;> simp
  · rfl

@[simp] theorem isFree_pairRows (r : String) : (h.isFree r).2.pairRows = h.pairRows := by
  simp [isFree]

@[simp] theorem markOffline_pairRows (r : String) : (h.markOffline r).pairRows = h.pairRows :=
  wentOffline_pairRows _ _

@[simp] theorem markAllOffline_pairRows : h.markAllOffline.2.pairRows = h.pairRows :=
  wentOffline_pairRows _ _

@[simp] theorem sweep_pairRows : h.sweep.2.pairRows = h.pairRows :=
  wentOffline_pairRows _ _

/-- Writing a robot's or a container's row leaves the orders and the trips. -/
@[simp] theorem write_pairRows (task : WriteTask) : (h.write task).2.pairRows = h.pairRows := by
  cases task with
  | robot id =>
    rw [write_robot]
    split <;> rfl
  | container r c =>
    rw [write_container]
    split
    · rfl
    · split <;> rfl

@[simp] theorem flush_pairRows : h.flush.pairRows = h.pairRows := by
  unfold flush
  generalize h.queue.batch = tasks
  suffices ∀ h' : Hub, h'.pairRows = h.pairRows →
      (tasks.foldl (fun h t =>
        ((h.write t).2.countWrite (if (h.write t).1 then "success" else "failed"))) h').pairRows =
        h.pairRows from
    this _ rfl
  induction tasks with
  | nil => exact fun _ h' => h'
  | cons t ts ih => exact fun h' he => ih _ (by simp [he])

@[simp] theorem publish_pairRows (c : Command) : (h.publish c).1.pairRows = h.pairRows := by
  unfold publish
  split <;> rfl

variable {h}

/-! ## Operations that save or close -/

theorem keyed_of_pairRows {h' : Hub} (he : h'.pairRows = h.pairRows) (hk : h.store.PairsKeyed) :
    h'.store.PairsKeyed :=
  hk.of_completesOnly (completesOnly_of_pairRows he)

theorem complete_pairsKeyed (hk : h.store.PairsKeyed) (o t : String) :
    (h.complete o t).2.store.PairsKeyed := by
  rw [complete_store]
  exact hk.closePair o t

theorem handle_pairsKeyed (hk : h.store.PairsKeyed) (r : String) (m : Message) :
    (h.handle r m).2.store.PairsKeyed := by
  obtain ⟨n, hn⟩ := handle_frame h r m
  rw [hn]
  exact hk.closeFor _

theorem route_pairsKeyed (hk : h.store.PairsKeyed) (topic payload : List UInt8) :
    (h.route topic payload).2.store.PairsKeyed := by
  obtain ⟨n, hn⟩ := route_frame h topic payload
  rw [hn]
  split
  · exact handle_pairsKeyed hk _ _
  · exact hk

theorem pairsKeyed_fresh (settings : Settings) (now : Instant) (timeout : Int) (capacity : Nat)
    (codes : List String) : (Hub.fresh settings now timeout capacity codes).store.PairsKeyed :=
  ⟨fun _ _ hr => by simp [fresh] at hr, fun _ _ hr => by simp [fresh] at hr⟩

end Hub

namespace Console

variable {h : Hub}

/-- Every move keeps the store filing each order and trip under its own code: it keeps the orders
and the trips, saves a row under its code, or closes a pair. -/
theorem StepMove.pairsKeyed {h' : Hub} {step : Json} (hmove : StepMove h step h')
    (hk : h.store.PairsKeyed) : h'.store.PairsKeyed := by
  cases hmove with
  | keep | advance | closeStore => exact hk.of_pairRows rfl rfl
  | route => exact Hub.route_pairsKeyed hk _ _
  | saveTrip _ hs => exact hk.saveTrip hs
  | saveOrder _ hs => exact hk.saveOrder hs
  | insertCode _ hs =>
    rw [Store.eq_of_insertCode_eq_ok hs]
    exact hk.of_pairRows rfl rfl
  | complete => exact Hub.complete_pairsKeyed hk _ _
  | send => exact Hub.keyed_of_pairRows (Hub.send_pairRows _ _) hk
  | resend => exact Hub.keyed_of_pairRows (Hub.resend_pairRows _ _) hk
  | verify => exact Hub.keyed_of_pairRows (Hub.verify_pairRows _ _ _) hk
  | cleanup => exact Hub.keyed_of_pairRows Hub.cleanup_pairRows hk
  -- the reads, the flush and a publication keep the orders and the trips
  | _ => exact Hub.keyed_of_pairRows (by simp) hk

/-- Every step keeps the store filing each order and trip under its own code. -/
theorem runStep_pairsKeyed (hk : h.store.PairsKeyed) (step : Json) :
    (runStep h step).2.store.PairsKeyed :=
  (runStep_move h step).pairsKeyed hk

theorem nextHub_pairsKeyed (hk : h.store.PairsKeyed) (step : Json) :
    (nextHub h step).store.PairsKeyed := by
  cases step with
  | object _ => exact runStep_pairsKeyed hk _
  | _ => exact hk

theorem afterSteps_pairsKeyed (hk : h.store.PairsKeyed) (steps : List Json) :
    (afterSteps h steps).store.PairsKeyed := by
  induction steps generalizing h with
  | nil => exact hk
  | cons step steps ih => exact ih (nextHub_pairsKeyed hk step)

/-- In every session from a fresh hub, the store files each order and trip under its own code. -/
theorem pairsKeyed_after_session (settings : Settings) (now : Instant) (timeout : Int)
    (capacity : Nat) (codes : List String) (steps : List Json) :
    (afterSteps (Hub.fresh settings now timeout capacity codes) steps).store.PairsKeyed :=
  afterSteps_pairsKeyed (Hub.pairsKeyed_fresh settings now timeout capacity codes) steps

end Console

end DeliveryFleet
