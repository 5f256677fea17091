import DeliveryFleet.Proofs.Telemetry.Latest
import DeliveryFleet.Proofs.Liveness.Online
import DeliveryFleet.Proofs.Telemetry.Coalescing
import DeliveryFleet.Proofs.Pickup.Completion
import DeliveryFleet.Proofs.Console.Commands

/-!
# Delivering a message twice

A robot's message may be delivered twice. Routing it again at the same instant leaves the hub as
the first delivery left it (`Hub.route_route`): every robot's readings and sighting, the code rows,
the orders and the trips, and the newest write waiting under each key (`Hub.Alike`); and the second
delivery takes no robot offline.

Routing handles the message a payload brings and otherwise only counts (`Hub.route_frame`).
Handling applies the message and closes the pickup it closes (`Hub.handle_frame`). Applying it
records it in the robot's readings (`Hub.apply_readings`), changes the tracker as `Tracker.hear`
says and offers the queue the message's write (`Hub.apply_frame`). Each part is idempotent for a
reason of its own:

* a reading recorded again is the same reading, and a trip state names the trip it left
  (`Readings.record_record`);
* a sighting marked seen, or told what the robot reports of itself, again at the same instant is
  unchanged (`Tracker.hear_hear`); a robot that said it goes away is no longer flagged alive, so
  the second goodbye takes it offline and schedules its row no more (`Hub.writeFor?_again`);
* a write pushed again is the newest of its key already, or the queue is full
  (`WriteQueue.batch_push_push`);
* a completion closes the pair's order and trip (`Attempt.run_complete_store`), and closing them
  again finds them completed or files the same completed rows once more
  (`Store.closePair_closePair`).
-/

namespace DeliveryFleet

/-! ## Readings -/

/-- A trip that has the id and the status a report names is left as it is by that report. -/
theorem Cache.tripAfterStatus_of_named {t : TripState} {id s : String} (hid : t.tripId = id)
    (hs : t.status = s) : Cache.tripAfterStatus (some t) id s = t := by
  subst hid hs
  simp [Cache.tripAfterStatus]

/-- A trip status report leaves a trip of the id and the status it names. -/
theorem Cache.tripAfterStatus_named (before : Option TripState) (id s : String) :
    (Cache.tripAfterStatus before id s).tripId = id ∧
      (Cache.tripAfterStatus before id s).status = s := by
  cases before with
  | none => simp [Cache.tripAfterStatus]
  | some t => by_cases ht : t.tripId = id <;> simp [Cache.tripAfterStatus, ht]

/-- Recording a message twice records it once. -/
theorem Readings.record_record (r : Readings) (m : Message) : (r.record m).record m = r.record m := by
  have hor : ∀ {α : Type} (a b : Option α), a.or (a.or b) = a.or b := fun a b => by
    rw [← Option.or_assoc, Option.or_self]
  cases m with
  | tripState id s =>
    obtain ⟨hid, hs⟩ := Cache.tripAfterStatus_named r.trip id s
    simp [record, Message.tripAfter_tripState, Cache.tripAfterStatus_of_named hid hs, hor]
  | _ => simp [record, Message.tripAfter, hor]

/-! ## Sightings -/

namespace Tracker

variable (t : Tracker) (robot : String) (now : Instant)

/-- What a message from a robot does to the tracker at an instant: a heartbeat sets what the robot
reports of itself, then marks it seen, or offline when it says it goes away; any other message
marks it seen. -/
def hear : Message → Tracker
  | .heartbeat true => (t.setSelfReported robot true).markSeen robot now
  | .heartbeat false => ((t.setSelfReported robot false).markOffline robot).1
  | _ => t.markSeen robot now

/-- Whether the tracker flags a robot alive. -/
def aliveFlag : Bool := (t.entries[robot]?.map (·.alive)).getD false

/-- Hearing from a robot leaves every other robot's sighting. -/
theorem hear_entry_ne {robot k : String} (hk : robot ≠ k) (m : Message) :
    (t.hear robot now m).entries[k]? = t.entries[k]? := by
  cases m with
  | heartbeat alive =>
    cases alive <;> simp [hear, markSeen_entry_ne _ hk, setSelfReported_entry, markOffline_entry, hk]
  | _ => exact markSeen_entry_ne _ hk now

/-- Hearing the same message again at the same instant changes no sighting. -/
theorem hear_hear (m : Message) (k : String) :
    ((t.hear robot now m).hear robot now m).entries[k]? = (t.hear robot now m).entries[k]? := by
  by_cases hk : robot = k
  · subst hk
    cases m with
    | heartbeat alive =>
      cases alive <;> simp [hear, markSeen_entry_self, setSelfReported_entry, markOffline_entry]
    | _ => simp [hear, markSeen_entry_self]
  · rw [hear_entry_ne _ _ hk, hear_entry_ne _ _ hk]

/-- Taking a robot offline reports whether it was flagged alive. -/
theorem markOffline_snd : (t.markOffline robot).2 = t.aliveFlag robot := by
  unfold markOffline aliveFlag
  rw [Std.TreeMap.get?_eq_getElem?]
  cases t.entries[robot]? <;> rfl

/-- Setting what a robot reports of itself keeps whether it is flagged alive. -/
@[simp] theorem aliveFlag_setSelfReported (f : Bool) :
    (t.setSelfReported robot f).aliveFlag robot = t.aliveFlag robot := by
  unfold aliveFlag
  rw [setSelfReported_entry, if_pos rfl]
  cases t.entries[robot]? <;> rfl

/-- A robot that said it goes away is not flagged alive. -/
theorem aliveFlag_hear_goodbye : (t.hear robot now (.heartbeat false)).aliveFlag robot = false := by
  simp [hear, aliveFlag, markOffline_entry, setSelfReported_entry]

end Tracker

/-! ## The write queue -/

namespace WriteQueue

/-- The queue after a write is offered, if there is one: the write waits, or is dropped when the
queue is full. -/
def offer (q : WriteQueue) : Option WriteTask → WriteQueue
  | some t => (q.push t).1
  | none => q

@[simp] theorem offer_none (q : WriteQueue) : q.offer none = q := rfl

/-- The batch depends only on the newest task waiting under each key. -/
theorem batch_congr {q q' : WriteQueue}
    (h : ∀ k, q.pending.reverse.find? (·.key == k) = q'.pending.reverse.find? (·.key == k)) :
    q.batch = q'.batch := by
  unfold batch
  refine Std.TreeMap.Equiv.values_eq (Std.TreeMap.Equiv.of_forall_constGet?_eq fun k => ?_)
  rw [foldl_insert_getElem?, foldl_insert_getElem?, h]

/-- Pushing a task again leaves the same batch: the task is the newest of its key already, or the
queue is full. -/
theorem batch_push_push (q : WriteQueue) (t : WriteTask) :
    ((q.push t).1.push t).1.batch = (q.push t).1.batch := by
  by_cases hl : q.pending.length < q.capacity
  · have hfirst : (q.push t).1 = { q with pending := q.pending ++ [t] } := by simp [push, hl]
    rw [hfirst]
    by_cases hl' : (q.pending ++ [t]).length < q.capacity
    · simp only [push, hl', if_true]
      apply batch_congr
      intro k
      by_cases hk : t.key = k <;> simp [hk]
    · simp only [push, hl', if_false]
  · simp [push, hl]

theorem batch_offer_offer (q : WriteQueue) (w : Option WriteTask) :
    ((q.offer w).offer w).batch = (q.offer w).batch := by
  cases w with
  | none => rfl
  | some t => exact batch_push_push q t

end WriteQueue

/-! ## Closing a pickup in the store -/

namespace Store

variable (s : Store)

/-- Saves an order completed under its own code, unless it is completed already. -/
def closeOrder (order : OrderRow) : Store :=
  if order.status = completedStatus then s
  else match s.saveOrder order.orderCode order.tripId order.email completedStatus with
    | .ok (_, s') => s'
    | .error _ => s

/-- Saves a trip completed under its own code, unless it is completed already. -/
def closeTrip (trip : TripRow) : Store :=
  if trip.status = completedStatus then s
  else match s.saveTrip trip.tripCode trip.robotCode trip.containerCode completedStatus with
    | .ok (_, s') => s'
    | .error _ => s

/-- What completing a pair leaves in the store: when the store finds the pair's order and trip,
they belong together, they are not both completed and a code row of the pair is verified, the
order and then the trip are closed; otherwise nothing changes. -/
def closePair (o t : String) : Store :=
  match s.findOrder o, s.findTrip t with
  | .ok (some order), .ok (some trip) =>
    if order.tripId = trip.id ∧ ¬(order.status = completedStatus ∧ trip.status = completedStatus) ∧
        (s.codesOf o t).any (·.verified) = true then (s.closeOrder order).closeTrip trip
    else s
  | _, _ => s

variable {s} {order : OrderRow} {trip : TripRow}

@[simp] theorem closeOrder_trips : (s.closeOrder order).trips = s.trips := by
  unfold closeOrder
  split
  · rfl
  · cases hc : s.closed <;> simp [saveOrder, guard, hc]

@[simp] theorem closeOrder_codes : (s.closeOrder order).codes = s.codes := by
  unfold closeOrder
  split
  · rfl
  · cases hc : s.closed <;> simp [saveOrder, guard, hc]

@[simp] theorem closeOrder_closed : (s.closeOrder order).closed = s.closed := by
  unfold closeOrder
  split
  · rfl
  · cases hc : s.closed <;> simp [saveOrder, guard, hc]

@[simp] theorem closeOrder_robots : (s.closeOrder order).robots = s.robots := by
  unfold closeOrder
  split
  · rfl
  · cases hc : s.closed <;> simp [saveOrder, guard, hc]

@[simp] theorem closeTrip_orders : (s.closeTrip trip).orders = s.orders := by
  unfold closeTrip
  split
  · rfl
  · cases hc : s.closed <;> simp [saveTrip, guard, hc]

@[simp] theorem closeTrip_codes : (s.closeTrip trip).codes = s.codes := by
  unfold closeTrip
  split
  · rfl
  · cases hc : s.closed <;> simp [saveTrip, guard, hc]

@[simp] theorem closeTrip_closed : (s.closeTrip trip).closed = s.closed := by
  unfold closeTrip
  split
  · rfl
  · cases hc : s.closed <;> simp [saveTrip, guard, hc]

@[simp] theorem closeTrip_robots : (s.closeTrip trip).robots = s.robots := by
  unfold closeTrip
  split
  · rfl
  · cases hc : s.closed <;> simp [saveTrip, guard, hc]

/-- Closing an open order on an open store files it completed under its code, with the id of the
row filed there before, or else the next one. -/
theorem closeOrder_orders (hopen : s.closed = false) (ho : order.status ≠ completedStatus) :
    (s.closeOrder order).orders = s.orders.insert order.orderCode
      { order with id := (s.orders[order.orderCode]?.map (·.id)).getD (s.lastOrderId + 1),
                   status := completedStatus } := by
  simp [closeOrder, ho, saveOrder, guard, hopen, Std.TreeMap.get?_eq_getElem?]

theorem closeTrip_trips (hopen : s.closed = false) (ht : trip.status ≠ completedStatus) :
    (s.closeTrip trip).trips = s.trips.insert trip.tripCode
      { trip with id := (s.trips[trip.tripCode]?.map (·.id)).getD (s.lastTripId + 1),
                  status := completedStatus } := by
  simp [closeTrip, ht, saveTrip, guard, hopen, Std.TreeMap.get?_eq_getElem?]

/-- Closing the order again writes nothing new: it is completed, or filed completed under its code
already. -/
def OrderClosed (s : Store) (order : OrderRow) : Prop :=
  order.status = completedStatus ∨
    ∃ n, s.orders[order.orderCode]? = some { order with id := n, status := completedStatus }

/-- Closing the trip again writes nothing new. -/
def TripClosed (s : Store) (trip : TripRow) : Prop :=
  trip.status = completedStatus ∨
    ∃ n, s.trips[trip.tripCode]? = some { trip with id := n, status := completedStatus }

@[simp] theorem orderClosed_closeTrip : (s.closeTrip trip).OrderClosed order ↔ s.OrderClosed order := by
  simp [OrderClosed]

@[simp] theorem tripClosed_closeOrder : (s.closeOrder order).TripClosed trip ↔ s.TripClosed trip := by
  simp [TripClosed]

theorem orderClosed_closeOrder (hopen : s.closed = false) (order : OrderRow) :
    (s.closeOrder order).OrderClosed order := by
  by_cases ho : order.status = completedStatus
  · exact .inl ho
  · exact .inr ⟨(s.orders[order.orderCode]?.map (·.id)).getD (s.lastOrderId + 1),
      by simp [closeOrder_orders hopen ho]⟩

theorem tripClosed_closeTrip (hopen : s.closed = false) (trip : TripRow) :
    (s.closeTrip trip).TripClosed trip := by
  by_cases ht : trip.status = completedStatus
  · exact .inl ht
  · exact .inr ⟨(s.trips[trip.tripCode]?.map (·.id)).getD (s.lastTripId + 1),
      by simp [closeTrip_trips hopen ht]⟩

/-- Closing a closed order files again the row filed under its code. -/
theorem closeOrder_of_orderClosed (hc : s.OrderClosed order) (k : String) :
    (s.closeOrder order).orders[k]? = s.orders[k]? := by
  rcases hc with hc | ⟨n, hn⟩
  · simp [closeOrder, hc]
  · by_cases ho : order.status = completedStatus
    · simp [closeOrder, ho]
    cases hopen : s.closed
    · rw [closeOrder_orders hopen ho, Std.TreeMap.getElem?_insert, hn]
      by_cases hk : order.orderCode = k
      · subst hk
        simp [hn]
      · simp [hk]
    · simp [closeOrder, ho, saveOrder, guard, hopen]

theorem closeTrip_of_tripClosed (hc : s.TripClosed trip) (k : String) :
    (s.closeTrip trip).trips[k]? = s.trips[k]? := by
  rcases hc with hc | ⟨n, hn⟩
  · simp [closeTrip, hc]
  · by_cases ht : trip.status = completedStatus
    · simp [closeTrip, ht]
    cases hopen : s.closed
    · rw [closeTrip_trips hopen ht, Std.TreeMap.getElem?_insert, hn]
      by_cases hk : trip.tripCode = k
      · subst hk
        simp [hn]
      · simp [hk]
    · simp [closeTrip, ht, saveTrip, guard, hopen]

/-- What closing an order files under a code: what was there, or a completed row. -/
theorem closeOrder_getElem? (k : String) :
    (s.closeOrder order).orders[k]? = s.orders[k]? ∨
      ∃ r, (s.closeOrder order).orders[k]? = some r ∧ r.status = completedStatus := by
  by_cases ho : order.status = completedStatus
  · simp [closeOrder, ho]
  cases hopen : s.closed
  · rw [closeOrder_orders hopen ho, Std.TreeMap.getElem?_insert]
    by_cases hk : order.orderCode = k <;> simp [hk]
  · simp [closeOrder, ho, saveOrder, guard, hopen]

theorem closeTrip_getElem? (k : String) :
    (s.closeTrip trip).trips[k]? = s.trips[k]? ∨
      ∃ r, (s.closeTrip trip).trips[k]? = some r ∧ r.status = completedStatus := by
  by_cases ht : trip.status = completedStatus
  · simp [closeTrip, ht]
  cases hopen : s.closed
  · rw [closeTrip_trips hopen ht, Std.TreeMap.getElem?_insert]
    by_cases hk : trip.tripCode = k <;> simp [hk]
  · simp [closeTrip, ht, saveTrip, guard, hopen]

/-- Closing a pair keeps the code rows. -/
@[simp] theorem closePair_codes (o t : String) : (s.closePair o t).codes = s.codes := by
  unfold closePair
  split
  · split <;> simp
  · rfl

/-- Closing a pair keeps the robot rows. -/
@[simp] theorem closePair_robots (o t : String) : (s.closePair o t).robots = s.robots := by
  unfold closePair
  split
  · split <;> simp
  · rfl

/-- A closing writes nothing, or closes the order and the trip that the open store files under the
pair's codes. -/
theorem closePair_cases (o t : String) :
    s.closePair o t = s ∨ ∃ order trip, s.closed = false ∧ s.orders[o]? = some order ∧
      s.trips[t]? = some trip ∧ s.closePair o t = (s.closeOrder order).closeTrip trip := by
  unfold closePair
  split
  · rename_i order trip hfo hft
    obtain ⟨hopen, ho⟩ := findOrder_eq_some.1 hfo
    obtain ⟨-, ht⟩ := findTrip_eq_some.1 hft
    split
    · exact .inr ⟨order, trip, hopen, ho, ht, rfl⟩
    · exact .inl rfl
  · exact .inl rfl

/-- Closing a pair whose order and trip are closed already writes nothing new. -/
theorem closePair_of_closed {o t : String}
    (ho : ∀ order, s.orders[o]? = some order → s.OrderClosed order)
    (ht : ∀ trip, s.trips[t]? = some trip → s.TripClosed trip) (k : String) :
    (s.closePair o t).orders[k]? = s.orders[k]? ∧ (s.closePair o t).trips[k]? = s.trips[k]? := by
  rcases closePair_cases (s := s) o t with h | ⟨order, trip, -, hso, hst, h⟩
  · simp [h]
  · rw [h, closeTrip_orders, closeTrip_of_tripClosed (tripClosed_closeOrder.2 (ht trip hst)),
      closeOrder_trips]
    exact ⟨closeOrder_of_orderClosed (ho order hso) k, rfl⟩

/-- Once the open store has closed the order and the trip filed under a pair's codes, the order and
the trip filed there are closed. -/
theorem closed_of_closeTrip_closeOrder (hopen : s.closed = false) {o t : String}
    (hso : s.orders[o]? = some order) (hst : s.trips[t]? = some trip) :
    (∀ order', ((s.closeOrder order).closeTrip trip).orders[o]? = some order' →
      ((s.closeOrder order).closeTrip trip).OrderClosed order') ∧
    (∀ trip', ((s.closeOrder order).closeTrip trip).trips[t]? = some trip' →
      ((s.closeOrder order).closeTrip trip).TripClosed trip') := by
  constructor
  · intro order' h'
    rw [closeTrip_orders] at h'
    rw [orderClosed_closeTrip]
    rcases @closeOrder_getElem? s order o with hsame | ⟨r, hr, hc⟩
    · rw [hsame, hso] at h'
      cases h'
      exact orderClosed_closeOrder hopen order
    · rw [hr] at h'
      cases h'
      exact .inl hc
  · intro trip' h'
    rcases @closeTrip_getElem? (s.closeOrder order) trip t with hsame | ⟨r, hr, hc⟩
    · rw [hsame, closeOrder_trips, hst] at h'
      cases h'
      exact tripClosed_closeTrip (by simpa using hopen) trip
    · rw [hr] at h'
      cases h'
      exact .inl hc

/-- Closing a pair twice closes it once: the second closing leaves every order and trip as the
first left them. -/
theorem closePair_closePair (o t k : String) :
    ((s.closePair o t).closePair o t).orders[k]? = (s.closePair o t).orders[k]? ∧
      ((s.closePair o t).closePair o t).trips[k]? = (s.closePair o t).trips[k]? := by
  rcases closePair_cases (s := s) o t with h | ⟨order, trip, hopen, hso, hst, h⟩
  · simp [h]
  · rw [h]
    obtain ⟨ho, ht⟩ := closed_of_closeTrip_closeOrder hopen hso hst
    exact closePair_of_closed ho ht k

end Store

/-! ## Completing a pickup -/

namespace Attempt

/-- A completion changes only the store, and leaves it with the pair closed. -/
theorem run_complete_store (o t : String) (h : Hub) :
    ((complete o t).run.run h).2 = { h with store := h.store.closePair o t } := by
  -- a lookup that finds no pair writes nothing
  rcases hfo : h.store.findOrder o with e | _ | order
  · simp [complete, lookup, hfo, Store.closePair, -ExceptT.run_bind]
  · simp [complete, lookup, hfo, Store.closePair, -ExceptT.run_bind]
  rcases hft : h.store.findTrip t with e | _ | trip
  · simp [complete, lookup, hfo, hft, Store.closePair, -ExceptT.run_bind]
  · simp [complete, lookup, hfo, hft, Store.closePair, -ExceptT.run_bind]
  obtain ⟨hopen, ho⟩ := Store.findOrder_eq_some.1 hfo
  by_cases hid : order.tripId = trip.id
  swap
  · simp [complete, lookup, hfo, hft, hid, Store.closePair, -ExceptT.run_bind]
  have hlook := run_lookup_of_found hfo hft hid
  by_cases hdone : order.status = completedStatus ∧ trip.status = completedStatus
  · simp [complete, hlook, hdone, Store.closePair, hfo, hft, -ExceptT.run_bind]
  have hv : h.store.hasVerified o t = .ok ((h.store.codesOf o t).any (·.verified)) := by
    simp [Store.hasVerified, Store.guard, hopen]
  cases hany : (h.store.codesOf o t).any (·.verified)
  · simp [complete, hlook, hdone, hv, hany, Store.closePair, hfo, hft, -ExceptT.run_bind]
  · simp [complete, hlook, hdone, hv, hany, Store.closePair, hfo, hft, hid, -ExceptT.run_bind]
    by_cases hos : order.status = completedStatus <;> by_cases hts : trip.status = completedStatus
    · exact absurd ⟨hos, hts⟩ hdone
    all_goals simp [hos, hts, Store.closeOrder, Store.closeTrip, Store.saveOrder, Store.saveTrip,
      Store.guard, hopen, hid, -ExceptT.run_bind]
    all_goals dsimp only [Functor.map]

end Attempt

/-! ## What a message does to the hub -/

/-- The robot and the message a routed payload brings: the topic names a robot under the root, and
the payload is a valid message of the topic's kind. -/
def Settings.accepted? (s : Settings) (topic payload : List UInt8) :
    Option (String × Message) :=
  match Route.match? s.root topic with
  | some (k, r) => (Message.decode k payload).map (r, ·)
  | none => none

/-- The pickup a message closes: a container's report of CLOSED, up to case, for an order and a
trip, while completion is enabled. -/
def Settings.closes? (s : Settings) : Message → Option (String × String)
  | .container v o t =>
    if s.completer && Fold.equalFold v.status closedContainer && !o.isEmpty && !t.isEmpty then
      some (o, t)
    else none
  | _ => none

/-- The store once the pickup a message closes, if any, is closed. -/
def Store.closeFor (s : Store) : Option (String × String) → Store
  | some (o, t) => s.closePair o t
  | none => s

@[simp] theorem Store.closeFor_codes (s : Store) (c : Option (String × String)) :
    (s.closeFor c).codes = s.codes := by
  cases c <;> simp [closeFor]

@[simp] theorem Store.closeFor_robots (s : Store) (c : Option (String × String)) :
    (s.closeFor c).robots = s.robots := by
  cases c <;> simp [closeFor]

theorem Store.closeFor_closeFor (s : Store) (c : Option (String × String)) (k : String) :
    ((s.closeFor c).closeFor c).orders[k]? = (s.closeFor c).orders[k]? ∧
      ((s.closeFor c).closeFor c).trips[k]? = (s.closeFor c).trips[k]? := by
  rcases c with _ | ⟨o, t⟩
  · exact ⟨rfl, rfl⟩
  · exact closePair_closePair o t k

namespace Hub

variable (h : Hub) (r : String)

/-- The write a message from a robot schedules: the row of the container it reports, while
container rows are kept; for a robot that says it goes away, its row if it was flagged alive; for
any other message the robot's row; robot rows only while they are kept. -/
def writeFor? : Message → Option WriteTask
  | .container v _ _ =>
    if h.settings.containersRepo then some (.container r v.containerCode) else none
  | .heartbeat false =>
    if h.settings.robotsRepo && h.tracker.aliveFlag r then some (.robot r) else none
  | _ => if h.settings.robotsRepo then some (.robot r) else none

/-- The robots a message takes offline: its robot, when it says it goes away while flagged
alive. -/
def offlineFor : Message → List String
  | .heartbeat false => if h.tracker.aliveFlag r then [r] else []
  | _ => []

/-- Pushing a write changes only the queue and the counters. -/
theorem push_frame (t : WriteTask) : ∃ n, h.push t = { h with queue := (h.queue.push t).1, counters := n } := by
  by_cases hl : h.queue.pending.length < h.queue.capacity
  · exact ⟨h.counters, by simp [push, WriteQueue.push, hl]⟩
  · exact ⟨(h.countWrite "dropped").counters, by simp [push, WriteQueue.push, hl, countWrite]⟩

/-- Scheduling a robot's row changes only the queue and the counters. -/
theorem scheduleRobot_frame :
    ∃ n, h.scheduleRobot r =
      { h with queue := h.queue.offer (if h.settings.robotsRepo then some (.robot r) else none),
               counters := n } := by
  unfold scheduleRobot
  cases hrepo : h.settings.robotsRepo
  · exact ⟨h.counters, by simp [WriteQueue.offer]⟩
  · obtain ⟨n, hn⟩ := push_frame h (.robot r)
    exact ⟨n, by simp [hn, WriteQueue.offer]⟩

/-- Scheduling a container's row changes only the queue and the counters. -/
theorem scheduleContainer_frame (code : String) :
    ∃ n, h.scheduleContainer r code =
      { h with queue := h.queue.offer
                 (if h.settings.containersRepo then some (.container r code) else none),
               counters := n } := by
  unfold scheduleContainer
  cases hrepo : h.settings.containersRepo
  · exact ⟨h.counters, by simp [WriteQueue.offer]⟩
  · obtain ⟨n, hn⟩ := push_frame h (.container r code)
    exact ⟨n, by simp [hn, WriteQueue.offer]⟩

/-- A reading lands in the cache, marks its robot seen and schedules the robot's row. -/
theorem withCache_touch_frame (f : Cache → Cache) :
    ∃ n, (h.withCache f).touch r =
      { h with tracker := h.tracker.markSeen r h.now, cache := f h.cache,
               queue := h.queue.offer (if h.settings.robotsRepo then some (.robot r) else none),
               counters := n } :=
  scheduleRobot_frame _ r

/-- A robot that says it goes away is flagged offline; when it was flagged alive it is reported
offline and its row is scheduled. -/
theorem heartbeat_goodbye :
    h.heartbeat r false =
      let g := { h with tracker := ((h.tracker.setSelfReported r false).markOffline r).1 }
      if h.tracker.aliveFlag r then
        ({ g with outbox := { g.outbox with offline := g.outbox.offline ++ [r] } }).scheduleRobot r
      else g := by
  simp only [heartbeat, Bool.false_eq_true, if_false, Tracker.markOffline_snd,
    Tracker.aliveFlag_setSelfReported]
  split <;> rfl

/-- A message from a robot changes only the tracker, which hears it, the cache, the queue, which is
offered the message's write, the outbox and the counters. -/
theorem apply_frame (m : Message) :
    ∃ c o n, h.apply r m =
      { h with tracker := h.tracker.hear r h.now m, cache := c,
               queue := h.queue.offer (h.writeFor? r m), outbox := o, counters := n } := by
  cases m with
  | container v _ _ => exact ⟨_, _, scheduleContainer_frame _ r v.containerCode⟩
  | heartbeat alive =>
    cases alive
    · rw [show h.apply r (.heartbeat false) = h.heartbeat r false from rfl, heartbeat_goodbye]
      by_cases ha : h.tracker.aliveFlag r = true
      · have hw : h.writeFor? r (.heartbeat false) =
            if h.settings.robotsRepo then some (.robot r) else none := by
          simp [writeFor?, ha]
        simp only [ha, if_true, hw]
        exact ⟨_, _, scheduleRobot_frame _ r⟩
      · exact ⟨h.cache, h.outbox, h.counters, by simp [ha, writeFor?, Tracker.hear]⟩
    · exact ⟨_, _, scheduleRobot_frame _ r⟩
  | _ => exact ⟨_, _, withCache_touch_frame h r _⟩

variable (m : Message)

theorem apply_settings : (h.apply r m).settings = h.settings := by
  obtain ⟨c, o, n, hn⟩ := apply_frame h r m
  rw [hn]

theorem apply_now : (h.apply r m).now = h.now := by
  obtain ⟨c, o, n, hn⟩ := apply_frame h r m
  rw [hn]

theorem apply_store : (h.apply r m).store = h.store := by
  obtain ⟨c, o, n, hn⟩ := apply_frame h r m
  rw [hn]

theorem apply_tracker : (h.apply r m).tracker = h.tracker.hear r h.now m := by
  obtain ⟨c, o, n, hn⟩ := apply_frame h r m
  rw [hn]

theorem apply_queue : (h.apply r m).queue = h.queue.offer (h.writeFor? r m) := by
  obtain ⟨c, o, n, hn⟩ := apply_frame h r m
  rw [hn]

/-- A message takes offline only its own robot, when it says it goes away while flagged alive. -/
theorem apply_offline : (h.apply r m).outbox.offline = h.outbox.offline ++ h.offlineFor r m := by
  cases m with
  | heartbeat alive =>
    cases alive
    · rw [show h.apply r (.heartbeat false) = h.heartbeat r false from rfl, heartbeat_goodbye]
      by_cases ha : h.tracker.aliveFlag r = true <;> simp [ha, offlineFor]
    · simp [apply, heartbeat, offlineFor]
  | _ => simp [apply, withCache, offlineFor]

/-- Handling a message applies it and closes the pickup it closes; beyond that only the counters
change. -/
theorem handle_frame :
    ∃ n, (h.handle r m).2 =
      { h.apply r m with store := h.store.closeFor (h.settings.closes? m), counters := n } := by
  unfold handle
  cases m with
  | container v o t =>
    dsimp only
    split
    · rename_i hc
      rw [apply_settings] at hc
      have hcl : h.settings.closes? (.container v o t) = some (o, t) := if_pos hc
      refine ⟨((h.apply r (.container v o t)).complete o t).2.counters, ?_⟩
      simp [complete, runPickup_eq, Attempt.run_complete_store, hcl, Store.closeFor, apply_store,
        countPickup]
    · rename_i hc
      rw [apply_settings] at hc
      have hcl : h.settings.closes? (.container v o t) = none := if_neg hc
      refine ⟨(h.apply r (.container v o t)).counters, ?_⟩
      obtain ⟨c, o, n, hn⟩ := apply_frame h r (.container v o t)
      rw [hcl, hn]
      rfl
  | _ =>
    obtain ⟨c, o, n, hn⟩ := apply_frame h r _
    exact ⟨n, by dsimp only; rw [hn]; rfl⟩

theorem handle_settings : (h.handle r m).2.settings = h.settings := by
  obtain ⟨n, hn⟩ := handle_frame h r m
  rw [hn]
  exact apply_settings h r m

variable {h r m}

/-- The write a message schedules when it comes again right after itself: none, or the same one. -/
theorem writeFor?_again {h' : Hub} (hs : h'.settings = h.settings)
    (ht : h'.tracker = h.tracker.hear r h.now m) :
    h'.writeFor? r m = none ∨ h'.writeFor? r m = h.writeFor? r m := by
  cases m with
  | heartbeat alive =>
    cases alive
    · -- the robot went away the first time: it is no longer flagged alive
      exact .inl (by simp [writeFor?, ht, Tracker.aliveFlag_hear_goodbye])
    · exact .inr (by simp [writeFor?, hs])
  | _ => exact .inr (by simp [writeFor?, hs])

/-- A message that comes again right after itself takes no robot offline. -/
theorem offlineFor_again {h' : Hub} (ht : h'.tracker = h.tracker.hear r h.now m) :
    h'.offlineFor r m = [] := by
  cases m with
  | heartbeat alive => cases alive <;> simp [offlineFor, ht, Tracker.aliveFlag_hear_goodbye]
  | _ => rfl

/-! ## Delivering a message twice -/

/-- Two hubs that hold the same: every robot's readings and sighting, the code rows, the orders and
the trips, and the newest write waiting under every key. -/
structure Alike (a b : Hub) : Prop where
  readings : ∀ robot : String, a.cache.readings robot = b.cache.readings robot
  sightings : ∀ robot : String, a.tracker.entries[robot]? = b.tracker.entries[robot]?
  codes : a.store.codes = b.store.codes
  orders : ∀ code : String, a.store.orders[code]? = b.store.orders[code]?
  trips : ∀ code : String, a.store.trips[code]? = b.store.trips[code]?
  batch : a.queue.batch = b.queue.batch

/-- What is counted does not matter. -/
theorem Alike.withCounters {a b : Hub} (hab : a.Alike b) (n : Counters) :
    ({ a with counters := n }).Alike b :=
  ⟨hab.readings, hab.sightings, hab.codes, hab.orders, hab.trips, hab.batch⟩

theorem Alike.refl (a : Hub) : a.Alike a :=
  ⟨fun _ => rfl, fun _ => rfl, rfl, fun _ => rfl, fun _ => rfl, rfl⟩

/-- Handling a message again right after itself, whatever was counted in between, leaves the hub as
the first handling left it, and takes no robot offline. -/
theorem handle_again (h : Hub) (r : String) (m : Message) {h1 : Hub} {n : Counters}
    (e : h1 = { (h.handle r m).2 with counters := n }) :
    (h1.handle r m).2.Alike h1 ∧ (h1.handle r m).2.outbox.offline = h1.outbox.offline := by
  obtain ⟨n1, hn1⟩ := handle_frame h r m
  obtain ⟨n2, hn2⟩ := handle_frame h1 r m
  -- the first handling applied the message and closed its pickup; the second does both again
  have hsettings : h1.settings = h.settings := by rw [e, hn1]; exact apply_settings h r m
  have htracker : h1.tracker = h.tracker.hear r h.now m := by rw [e, hn1]; exact apply_tracker h r m
  have hnow : h1.now = h.now := by rw [e, hn1]; exact apply_now h r m
  have hstore : h1.store = h.store.closeFor (h.settings.closes? m) := by rw [e, hn1]
  have hcache : h1.cache = (h.apply r m).cache := by rw [e, hn1]
  have hqueue : h1.queue = h.queue.offer (h.writeFor? r m) := by rw [e, hn1]; exact apply_queue h r m
  rw [hn2]
  dsimp only
  refine ⟨⟨fun robot => ?_, fun robot => ?_, ?_, fun code => ?_, fun code => ?_, ?_⟩, ?_⟩
  · rw [apply_readings, hcache, apply_readings]
    by_cases hr : r = robot <;> simp [hr, Readings.record_record]
  · rw [apply_tracker, htracker, hnow]
    exact Tracker.hear_hear _ _ _ _ _
  · simp [hstore, hsettings]
  · simp only [hstore, hsettings]
    exact (Store.closeFor_closeFor _ _ code).1
  · simp only [hstore, hsettings]
    exact (Store.closeFor_closeFor _ _ code).2
  · rw [apply_queue, hqueue]
    rcases writeFor?_again hsettings htracker with hw | hw
    · rw [hw, WriteQueue.offer_none]
    · rw [hw, WriteQueue.batch_offer_offer]
  · rw [apply_offline, offlineFor_again htracker, List.append_nil]

/-- Routing handles the message a payload brings, if any; beyond that it only counts. -/
theorem route_frame (h : Hub) (topic payload : List UInt8) :
    ∃ n, (h.route topic payload).2 =
      match h.settings.accepted? topic payload with
      | some (r, m) => { (h.handle r m).2 with counters := n }
      | none => { h with counters := n } := by
  unfold route Settings.accepted?
  rcases Route.match? h.settings.root topic with _ | ⟨k, r⟩
  · exact ⟨(h.countMessage "unknown" "unmatched").counters, rfl⟩
  · dsimp only
    cases Message.decode k payload with
    | none => exact ⟨(h.countMessage k.name "malformed").counters, rfl⟩
    | some m => exact ⟨((h.handle r m).2.countMessage k.name (h.handle r m).1).counters, rfl⟩

theorem route_settings (h : Hub) (topic payload : List UInt8) :
    (h.route topic payload).2.settings = h.settings := by
  obtain ⟨n, hn⟩ := route_frame h topic payload
  rw [hn]
  split
  · exact handle_settings h _ _
  · rfl

/-- Routing a message again at the same instant leaves the hub as routing it once left it: every
robot's readings and sighting, the code rows, the orders, the trips and the newest write waiting
under every key; and it takes no robot offline. -/
theorem route_route (h : Hub) (topic payload : List UInt8) :
    ((h.route topic payload).2.route topic payload).2.Alike (h.route topic payload).2 ∧
      ((h.route topic payload).2.route topic payload).2.outbox.offline =
        (h.route topic payload).2.outbox.offline := by
  obtain ⟨n1, hn1⟩ := route_frame h topic payload
  obtain ⟨n2, hn2⟩ := route_frame (h.route topic payload).2 topic payload
  -- routing keeps the settings, so the second routing accepts what the first did
  have hacc : (h.route topic payload).2.settings.accepted? topic payload =
      h.settings.accepted? topic payload := by
    rw [route_settings]
  rw [hn2, hacc]
  rcases ha : h.settings.accepted? topic payload with _ | ⟨r, m⟩
  · dsimp only
    exact ⟨(Alike.refl _).withCounters n2, rfl⟩
  · dsimp only
    simp only [ha] at hn1
    obtain ⟨hlike, hoff⟩ := handle_again h r m hn1
    exact ⟨hlike.withCounters n2, hoff⟩

end Hub

end DeliveryFleet
