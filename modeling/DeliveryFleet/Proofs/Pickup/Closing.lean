import DeliveryFleet.Proofs.Session.Redelivery

/-!
# Closing a pickup

On an open store a completion answers what the store's rows say (`Store.completionAnswer`,
`Hub.complete_answer`), and on a closed one it breaks off and answers `serverError`. It answers
completed exactly when the store finds the pair's order and trip, they belong together, and either
both are completed already or a code row of the pair is verified (`Store.Closable`,
`Hub.complete_completed_iff`). Its whole effect is the store's closing of the pair
(`Store.closePair`), so:

* after a completion that answers completed the pair's order and trip are filed completed, and an
  order or a trip that was completed already is not saved again: its table and its id counter
  stay as they were (`Store.closePair_orders_of_completed`, `Store.closePair_trips_of_completed`);
* any other answer leaves the store as it was (`Store.closePair_of_not_closable`);
* a second completion of the pair answers as the first did and writes nothing
  (`Store.closePair_idem`), on a store that files every order and trip under its own code;
* no completion draws, writes, verifies or deletes a code, mails or publishes.
-/

namespace DeliveryFleet

namespace Store

variable {s : Store} {o t : String} {order : OrderRow} {trip : TripRow}

/-- What a completion of a pair needs: the store finds the pair's order and trip, they belong
together, and either both are completed already or a code row of the pair is verified. -/
def Closable (s : Store) (o t : String) : Prop :=
  ∃ order trip, s.findOrder o = .ok (some order) ∧ s.findTrip t = .ok (some trip) ∧
    order.tripId = trip.id ∧
    ((order.status = completedStatus ∧ trip.status = completedStatus) ∨
      ∃ r ∈ s.codesOf o t, r.verified = true)

@[simp] theorem closeOrder_lastTripId : (s.closeOrder order).lastTripId = s.lastTripId := by
  unfold closeOrder
  split
  · rfl
  · cases hc : s.closed <;> simp [saveOrder, guard, hc]

@[simp] theorem closeTrip_lastOrderId : (s.closeTrip trip).lastOrderId = s.lastOrderId := by
  unfold closeTrip
  split
  · rfl
  · cases hc : s.closed <;> simp [saveTrip, guard, hc]

theorem closeOrder_of_completed (ho : order.status = completedStatus) : s.closeOrder order = s := by
  simp [closeOrder, ho]

theorem closeTrip_of_completed (ht : trip.status = completedStatus) : s.closeTrip trip = s := by
  simp [closeTrip, ht]

/-- Closing an order the open store files under its own code files it completed there. -/
theorem closeOrder_self (hopen : s.closed = false) (ho : s.orders[o]? = some order)
    (hoc : order.orderCode = o) :
    (s.closeOrder order).orders[o]? = some { order with status := completedStatus } := by
  by_cases hc : order.status = completedStatus
  · rw [closeOrder_of_completed hc, ho]
    cases order
    simp_all
  · subst hoc
    simp [closeOrder_orders hopen hc, ho]

theorem closeTrip_self (hopen : s.closed = false) (ht : s.trips[t]? = some trip)
    (htc : trip.tripCode = t) :
    (s.closeTrip trip).trips[t]? = some { trip with status := completedStatus } := by
  by_cases hc : trip.status = completedStatus
  · rw [closeTrip_of_completed hc, ht]
    cases trip
    simp_all
  · subst htc
    simp [closeTrip_trips hopen hc, ht]

/-- What a completion of a pair answers on an open store: the pair's order and its trip must be
filed under their codes and belong together, and then the pair closes when both are completed
already or a code row of the pair is verified. -/
def completionAnswer (s : Store) (o t : String) : Outcome :=
  match s.orders[o]?, s.trips[t]? with
  | none, _ => .orderNotFound
  | some _, none => .tripNotFound
  | some order, some trip =>
    if order.tripId ≠ trip.id then .tripMismatch
    else if (order.status = completedStatus ∧ trip.status = completedStatus) ∨
        (s.codesOf o t).any (·.verified) = true then .completed
    else .notVerified

theorem completionAnswer_ne_serverError : s.completionAnswer o t ≠ .serverError := by
  unfold completionAnswer
  split
  · nofun
  · nofun
  · split
    · nofun
    · split <;> nofun

theorem completionAnswer_eq_completed_iff (hopen : s.closed = false) :
    s.completionAnswer o t = .completed ↔ s.Closable o t := by
  simp only [Closable, findOrder_eq_some, findTrip_eq_some, hopen, true_and]
  unfold completionAnswer
  split
  · rename_i ho
    simp [ho]
  · rename_i ho ht
    simp [ht]
  · rename_i order trip ho ht
    simp only [ho, ht, Option.some.injEq, exists_and_left, exists_eq_left', List.any_eq_true]
    split
    · simp_all
    · split <;> simp_all

/-- A closable pair is closed by closing its order and then its trip. -/
theorem closePair_eq (hfo : s.findOrder o = .ok (some order)) (hft : s.findTrip t = .ok (some trip))
    (hid : order.tripId = trip.id)
    (hv : (order.status = completedStatus ∧ trip.status = completedStatus) ∨
      ∃ r ∈ s.codesOf o t, r.verified = true) :
    s.closePair o t = (s.closeOrder order).closeTrip trip := by
  unfold closePair
  rw [hfo, hft]
  dsimp only
  by_cases hdone : order.status = completedStatus ∧ trip.status = completedStatus
  · -- both completed: the closing writes nothing, and neither does closing each
    rw [if_neg (fun hc => hc.2.1 hdone), closeOrder_of_completed hdone.1,
      closeTrip_of_completed hdone.2]
  · have hany : (s.codesOf o t).any (·.verified) = true :=
      List.any_eq_true.2 (hv.resolve_left hdone)
    rw [if_pos ⟨hid, hdone, hany⟩]

/-- A pair that is not closable is left as it is. -/
theorem closePair_of_not_closable (hn : ¬ s.Closable o t) : s.closePair o t = s := by
  unfold closePair
  split
  · rename_i order trip hfo hft
    rw [if_neg]
    rintro ⟨hid, -, hany⟩
    exact hn ⟨order, trip, hfo, hft, hid, .inr (List.any_eq_true.1 hany)⟩
  · rfl

/-- Closing a pair whose order and trip are both completed writes nothing. -/
theorem closePair_done (hfo : s.findOrder o = .ok (some order))
    (hft : s.findTrip t = .ok (some trip)) (hid : order.tripId = trip.id)
    (hdone : order.status = completedStatus ∧ trip.status = completedStatus) :
    s.closePair o t = s := by
  rw [closePair_eq hfo hft hid (.inl hdone), closeOrder_of_completed hdone.1,
    closeTrip_of_completed hdone.2]

/-- After closing a closable pair of a store that files rows under their codes, the store finds
the pair's order and trip completed. -/
theorem closePair_finds (hk : s.PairsKeyed) (hfo : s.findOrder o = .ok (some order))
    (hft : s.findTrip t = .ok (some trip)) (hid : order.tripId = trip.id)
    (hv : (order.status = completedStatus ∧ trip.status = completedStatus) ∨
      ∃ r ∈ s.codesOf o t, r.verified = true) :
    (s.closePair o t).findOrder o = .ok (some { order with status := completedStatus }) ∧
      (s.closePair o t).findTrip t = .ok (some { trip with status := completedStatus }) := by
  obtain ⟨hopen, ho⟩ := findOrder_eq_some.1 hfo
  obtain ⟨-, ht⟩ := findTrip_eq_some.1 hft
  rw [closePair_eq hfo hft hid hv, findOrder_eq_some, findTrip_eq_some]
  refine ⟨⟨by simpa using hopen, ?_⟩, ⟨by simpa using hopen, ?_⟩⟩
  · rw [closeTrip_orders]
    exact closeOrder_self hopen ho (hk.order o order ho)
  · rw [closeTrip_self (by simpa using hopen) (by rwa [closeOrder_trips])
      (hk.trip t trip ht)]

/-- Closing a pair twice writes once, on a store that files every order and trip under its own
code: the first closing leaves the pair's order and trip completed. -/
theorem closePair_idem (hk : s.PairsKeyed) : (s.closePair o t).closePair o t = s.closePair o t := by
  by_cases hc : s.Closable o t
  · obtain ⟨order, trip, hfo, hft, hid, hv⟩ := hc
    obtain ⟨hfo', hft'⟩ := closePair_finds hk hfo hft hid hv
    exact closePair_done hfo' hft' hid ⟨rfl, rfl⟩
  · rw [closePair_of_not_closable hc, closePair_of_not_closable hc]

/-- Closing keeps whether the pair is closable: a closed pair has its order and trip completed. -/
theorem closable_closePair (hk : s.PairsKeyed) : (s.closePair o t).Closable o t ↔ s.Closable o t := by
  by_cases hc : s.Closable o t
  · obtain ⟨order, trip, hfo, hft, hid, hv⟩ := hc
    obtain ⟨hfo', hft'⟩ := closePair_finds hk hfo hft hid hv
    exact iff_of_true ⟨_, _, hfo', hft', hid, .inl ⟨rfl, rfl⟩⟩ ⟨order, trip, hfo, hft, hid, hv⟩
  · rw [closePair_of_not_closable hc]

/-- An order that was completed already is not saved again: its table and id counter stay. -/
theorem closePair_orders_of_completed (hfo : s.findOrder o = .ok (some order))
    (hc : order.status = completedStatus) :
    (s.closePair o t).orders = s.orders ∧ (s.closePair o t).lastOrderId = s.lastOrderId := by
  rcases closePair_cases (s := s) o t with he | ⟨order', trip', -, ho, -, he⟩
  · rw [he]
    exact ⟨rfl, rfl⟩
  · obtain ⟨-, ho'⟩ := findOrder_eq_some.1 hfo
    rw [ho'] at ho
    cases ho
    rw [he, closeOrder_of_completed hc]
    exact ⟨closeTrip_orders, closeTrip_lastOrderId⟩

theorem closePair_trips_of_completed (hft : s.findTrip t = .ok (some trip))
    (hc : trip.status = completedStatus) :
    (s.closePair o t).trips = s.trips ∧ (s.closePair o t).lastTripId = s.lastTripId := by
  rcases closePair_cases (s := s) o t with he | ⟨order', trip', -, -, ht, he⟩
  · rw [he]
    exact ⟨rfl, rfl⟩
  · obtain ⟨-, ht'⟩ := findTrip_eq_some.1 hft
    rw [ht'] at ht
    cases ht
    rw [he, closeTrip_of_completed hc]
    exact ⟨closeOrder_trips, closeOrder_lastTripId⟩

end Store

namespace Attempt

variable {h : Hub} {o t : String}

/-- On an open store a completion answers what the store's rows say. -/
theorem run_complete_answer (hopen : h.store.closed = false) :
    ((complete o t).run.run h).1 = .ok (h.store.completionAnswer o t) := by
  -- the cases follow the completion's own tests, in its order
  have hfo : h.store.findOrder o = .ok h.store.orders[o]? := by
    simp [Store.findOrder, Store.guard, hopen, Std.TreeMap.get?_eq_getElem?]
  have hft : h.store.findTrip t = .ok h.store.trips[t]? := by
    simp [Store.findTrip, Store.guard, hopen, Std.TreeMap.get?_eq_getElem?]
  rcases ho : h.store.orders[o]? with _ | order
  · simp [complete, lookup, hfo, ho, Store.completionAnswer, -ExceptT.run_bind]
  rcases ht : h.store.trips[t]? with _ | trip
  · simp [complete, lookup, hfo, ho, hft, ht, Store.completionAnswer, -ExceptT.run_bind]
  by_cases hid : order.tripId = trip.id
  swap
  · simp [complete, lookup, hfo, ho, hft, ht, hid, Store.completionAnswer, -ExceptT.run_bind]
  have hlook := run_lookup_of_found (by rw [hfo, ho]) (by rw [hft, ht]) hid
  by_cases hdone : order.status = completedStatus ∧ trip.status = completedStatus
  · simp [complete, hlook, hdone, hid, ho, ht, Store.completionAnswer, -ExceptT.run_bind]
  have hv : h.store.hasVerified o t = .ok ((h.store.codesOf o t).any (·.verified)) := by
    simp [Store.hasVerified, Store.guard, hopen]
  cases hany : (h.store.codesOf o t).any (·.verified)
  · simp [complete, hlook, hdone, hv, hany, hid, ho, ht, Store.completionAnswer, -ExceptT.run_bind]
  · simp [complete, hlook, hdone, hv, hany, hid, ho, ht, Store.completionAnswer, -ExceptT.run_bind]
    by_cases hos : order.status = completedStatus <;> by_cases hts : trip.status = completedStatus
    · exact absurd ⟨hos, hts⟩ hdone
    all_goals simp [hos, hts, Store.saveOrder, Store.saveTrip, Store.guard, hopen, -ExceptT.run_bind]
    all_goals simp [Functor.map, Except.map]

/-- On a closed store a completion breaks off at its first lookup. -/
theorem run_complete_closed (hclosed : h.store.closed = true) :
    ∃ f, ((complete o t).run.run h).1 = .error f := by
  simp [complete, lookup, Store.findOrder, Store.guard, hclosed, -ExceptT.run_bind]

/-- A completion answers completed exactly when the pair is closable. -/
theorem complete_completed_iff :
    ((complete o t).run.run h).1 = .ok .completed ↔ h.store.Closable o t := by
  cases hc : h.store.closed
  · rw [run_complete_answer hc, Except.ok.injEq, Store.completionAnswer_eq_completed_iff hc]
  · obtain ⟨f, hf⟩ := run_complete_closed (o := o) (t := t) hc
    rw [hf]
    -- a closed store finds no order
    refine iff_of_false (by simp) ?_
    rintro ⟨order, trip, hfo, -⟩
    simp [(Store.findOrder_eq_some.1 hfo).1] at hc

end Attempt

namespace Hub

variable {h : Hub} {o t : String} {order : OrderRow} {trip : TripRow}

/-- A completion leaves the store with the pair closed. -/
theorem complete_store : (h.complete o t).2.store = h.store.closePair o t := by
  rw [complete, runPickup_eq, countPickup_store, Attempt.run_complete_store]

/-- A completion changes nothing but the store and the counters. -/
theorem complete_outbox : (h.complete o t).2.outbox = h.outbox := by
  rw [complete, runPickup_eq, countPickup_outbox, Attempt.run_complete_store]

theorem complete_codes : (h.complete o t).2.codes = h.codes := by
  rw [complete, runPickup_eq, countPickup_codes, Attempt.run_complete_store]

/-- A completion answers what the store's rows say, or `serverError` when the store is closed. -/
theorem complete_answer :
    (h.complete o t).1 = if h.store.closed then .serverError else h.store.completionAnswer o t := by
  cases hc : h.store.closed
  · simp [complete, runPickup_eq, Attempt.run_complete_answer hc]
  · obtain ⟨f, hf⟩ := Attempt.run_complete_closed (o := o) (t := t) hc
    simp [complete, runPickup_eq, hf]

/-- A completion answers `serverError` exactly when the store is closed: it breaks off nowhere
else. -/
theorem complete_serverError_iff : (h.complete o t).1 = .serverError ↔ h.store.closed = true := by
  rw [complete_answer]
  cases h.store.closed <;> simp [Store.completionAnswer_ne_serverError]

theorem complete_completed_iff : (h.complete o t).1 = .completed ↔ h.store.Closable o t := by
  rw [← Attempt.complete_completed_iff, complete, runPickup_eq]
  -- a break-off answers `serverError`, which is not completed
  split <;> simp_all

/-- Any answer but completed leaves the store as it was. -/
theorem complete_store_of_ne (hn : (h.complete o t).1 ≠ .completed) :
    (h.complete o t).2.store = h.store := by
  rw [complete_store]
  exact Store.closePair_of_not_closable (mt complete_completed_iff.2 hn)

section Keyed

variable (hk : h.store.PairsKeyed)
include hk

/-- A second completion of a pair answers completed exactly when the first did. -/
theorem complete_complete :
    ((h.complete o t).2.complete o t).1 = .completed ↔ (h.complete o t).1 = .completed := by
  rw [complete_completed_iff, complete_completed_iff, complete_store, Store.closable_closePair hk]

/-- A second completion of a pair writes nothing. -/
theorem complete_complete_store :
    ((h.complete o t).2.complete o t).2.store = (h.complete o t).2.store := by
  rw [complete_store, complete_store, Store.closePair_idem hk]

/-- After a completion that answers completed, the store finds the pair's order and trip completed,
and one of them that was completed already was not saved again. -/
theorem complete_finds (hfo : h.store.findOrder o = .ok (some order))
    (hft : h.store.findTrip t = .ok (some trip)) (hc : (h.complete o t).1 = .completed) :
    (h.complete o t).2.store.findOrder o = .ok (some { order with status := completedStatus }) ∧
      (h.complete o t).2.store.findTrip t = .ok (some { trip with status := completedStatus }) := by
  obtain ⟨order', trip', hfo', hft', hid, hv⟩ := complete_completed_iff.1 hc
  rw [hfo, Except.ok.injEq, Option.some.injEq] at hfo'
  rw [hft, Except.ok.injEq, Option.some.injEq] at hft'
  subst hfo' hft'
  rw [complete_store]
  exact Store.closePair_finds hk hfo hft hid hv

end Keyed

/-- A completion answers completed exactly when the store finds the pair's order and trip, they
belong together, and either both are completed already or a code row of the pair is verified.
It then leaves both filed completed and saves neither that was completed already (its table and
its id counter stay); a second completion answers alike and writes nothing; any other answer
leaves the store as it was; and no completion touches a code row or a code still to hand out,
mails or publishes. The store files every order and trip under its own code. -/
theorem complete_closes_pair (h : Hub) (o t : String) (hk : h.store.PairsKeyed) :
    ((h.complete o t).1 = .completed ↔ h.store.Closable o t) ∧
    (∀ order trip, h.store.findOrder o = .ok (some order) →
      h.store.findTrip t = .ok (some trip) → (h.complete o t).1 = .completed →
        (h.complete o t).2.store.findOrder o = .ok (some { order with status := completedStatus }) ∧
        (h.complete o t).2.store.findTrip t = .ok (some { trip with status := completedStatus }) ∧
        (order.status = completedStatus → (h.complete o t).2.store.orders = h.store.orders ∧
          (h.complete o t).2.store.lastOrderId = h.store.lastOrderId) ∧
        (trip.status = completedStatus → (h.complete o t).2.store.trips = h.store.trips ∧
          (h.complete o t).2.store.lastTripId = h.store.lastTripId)) ∧
    (((h.complete o t).2.complete o t).1 = .completed ↔ (h.complete o t).1 = .completed) ∧
    ((h.complete o t).2.complete o t).2.store = (h.complete o t).2.store ∧
    ((h.complete o t).1 ≠ .completed → (h.complete o t).2.store = h.store) ∧
    (h.complete o t).2.store.codes = h.store.codes ∧ (h.complete o t).2.codes = h.codes ∧
    (h.complete o t).2.outbox = h.outbox := by
  refine ⟨complete_completed_iff, ?_, complete_complete hk, complete_complete_store hk,
    complete_store_of_ne, by rw [complete_store, Store.closePair_codes], complete_codes,
    complete_outbox⟩
  intro order trip hfo hft hc
  refine ⟨(complete_finds hk hfo hft hc).1, (complete_finds hk hfo hft hc).2, ?_⟩
  rw [complete_store]
  exact ⟨Store.closePair_orders_of_completed hfo,
    Store.closePair_trips_of_completed hft⟩

/-- After a code of the demonstration pair is sent and accepted, its completion answers completed,
and the store of that hub files its rows under their codes. -/
theorem complete_closes_pair_after_verify :
    let h := (((pickupDemo (Instant.ofCivil 2024 1 1 0 0 0 0) ["111111"]).send "O1" "T1").2.verify
      "O1" "T1" "111111").2
    h.store.PairsKeyed ∧ (h.complete "O1" "T1").1 = .completed ∧
    ((h.complete "O1" "T1").1 = .completed ↔ h.store.Closable "O1" "T1") ∧
    (∀ order trip, h.store.findOrder "O1" = .ok (some order) →
      h.store.findTrip "T1" = .ok (some trip) → (h.complete "O1" "T1").1 = .completed →
        (h.complete "O1" "T1").2.store.findOrder "O1" =
          .ok (some { order with status := completedStatus }) ∧
        (h.complete "O1" "T1").2.store.findTrip "T1" =
          .ok (some { trip with status := completedStatus }) ∧
        (order.status = completedStatus → (h.complete "O1" "T1").2.store.orders = h.store.orders ∧
          (h.complete "O1" "T1").2.store.lastOrderId = h.store.lastOrderId) ∧
        (trip.status = completedStatus → (h.complete "O1" "T1").2.store.trips = h.store.trips ∧
          (h.complete "O1" "T1").2.store.lastTripId = h.store.lastTripId)) ∧
    (((h.complete "O1" "T1").2.complete "O1" "T1").1 = .completed ↔
      (h.complete "O1" "T1").1 = .completed) ∧
    ((h.complete "O1" "T1").2.complete "O1" "T1").2.store = (h.complete "O1" "T1").2.store ∧
    ((h.complete "O1" "T1").1 ≠ .completed → (h.complete "O1" "T1").2.store = h.store) ∧
    (h.complete "O1" "T1").2.store.codes = h.store.codes ∧
    (h.complete "O1" "T1").2.codes = h.codes ∧ (h.complete "O1" "T1").2.outbox = h.outbox := by
  intro h
  have hk : h.store.PairsKeyed :=
    (((pickupDemo_pairFound (Instant.ofCivil 2024 1 1 0 0 0 0) ["111111"]).run
      (.send "O1" "T1")).run (.verify "O1" "T1" "111111")).keyed
  exact ⟨hk, by decide, complete_closes_pair h "O1" "T1" hk⟩

end Hub

end DeliveryFleet
