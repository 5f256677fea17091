import DeliveryFleet.Proofs.Pickup.Run

/-!
# Completing a verified pickup

A completion (`Hub.complete`) closes a pair when the store finds the pair's order and trip, they
belong together, and either both are completed already or a code row of the pair is verified
(`Attempt.run_complete_of_found`). Across a run of pickup operations:

* an order or a trip changes only by being marked completed (`Store.CompletesOnly`,
  `PickupOp.completesOnly_run`), so once the store files every order and trip under its code
  (`Store.PairsKeyed`) the pair's order and trip stay found and together (`Hub.PairFound.run`),
  and a completed pair stays completed (`Hub.PickupDone.run`);
* a verified row of the pair stays, except that a cleanup deletes it once it has expired and was
  created before the resend window (`Hub.KeepsVerified.run`, `Hub.cleanupKeeps`).

So after an accepted verification (`Hub.keepsVerified_verify`) a run in which no cleanup before
the pair's first completion deletes the verified row leaves the pair completed or closable
(`Hub.closable_exec`), and a completion then answers completed (`Hub.complete_of_pairFound`).
-/

namespace DeliveryFleet

namespace Store

variable {s s' : Store}

/-- The store files every order and every trip under its own code. -/
structure PairsKeyed (s : Store) : Prop where
  order : ∀ (k : String) (row : OrderRow), s.orders[k]? = some row → row.orderCode = k
  trip : ∀ (k : String) (row : TripRow), s.trips[k]? = some row → row.tripCode = k

/-- `s'` is `s` with at most some orders and trips marked completed. -/
structure CompletesOnly (s s' : Store) : Prop where
  order : ∀ k : String, s'.orders[k]? = s.orders[k]? ∨
    ∃ row : OrderRow, s.orders[k]? = some row ∧
      s'.orders[k]? = some { row with status := completedStatus }
  trip : ∀ k : String, s'.trips[k]? = s.trips[k]? ∨
    ∃ row : TripRow, s.trips[k]? = some row ∧
      s'.trips[k]? = some { row with status := completedStatus }

theorem CompletesOnly.refl (s : Store) : s.CompletesOnly s :=
  ⟨fun _ => .inl rfl, fun _ => .inl rfl⟩

theorem CompletesOnly.of_eq (horders : s'.orders = s.orders) (htrips : s'.trips = s.trips) :
    s.CompletesOnly s' :=
  ⟨fun _ => .inl (by rw [horders]), fun _ => .inl (by rw [htrips])⟩

/-- Marking an order, a trip or both completed. -/
theorem completesOnly_of_rows
    (horders : s'.orders = s.orders ∨ ∃ o order, s.orders[o]? = some order ∧
      s'.orders = s.orders.insert o { order with status := completedStatus })
    (htrips : s'.trips = s.trips ∨ ∃ t trip, s.trips[t]? = some trip ∧
      s'.trips = s.trips.insert t { trip with status := completedStatus }) :
    s.CompletesOnly s' := by
  constructor
  · intro k
    rcases horders with e | ⟨o, order, ho, e⟩
    · exact .inl (by rw [e])
    · by_cases hk : o = k
      · subst hk
        exact .inr ⟨order, ho, by simp [e]⟩
      · exact .inl (by simp [e, Std.TreeMap.getElem?_insert, hk])
  · intro k
    rcases htrips with e | ⟨t, trip, ht, e⟩
    · exact .inl (by rw [e])
    · by_cases hk : t = k
      · subst hk
        exact .inr ⟨trip, ht, by simp [e]⟩
      · exact .inl (by simp [e, Std.TreeMap.getElem?_insert, hk])

/-- Marking rows completed keeps every row under its code. -/
theorem PairsKeyed.of_completesOnly (hk : s.PairsKeyed) (hc : s.CompletesOnly s') :
    s'.PairsKeyed := by
  constructor
  · intro k row hr
    rcases hc.order k with e | ⟨row₀, h₀, e⟩
    · exact hk.order k row (e ▸ hr)
    · rw [e] at hr
      cases hr
      exact hk.order k row₀ h₀
  · intro k row hr
    rcases hc.trip k with e | ⟨row₀, h₀, e⟩
    · exact hk.trip k row (e ▸ hr)
    · rw [e] at hr
      cases hr
      exact hk.trip k row₀ h₀

/-- Marking rows completed keeps the trip an order names. -/
theorem CompletesOnly.order_found (hc : s.CompletesOnly s') {o : String} {order : OrderRow}
    (ho : s.orders[o]? = some order) :
    ∃ order' : OrderRow, s'.orders[o]? = some order' ∧ order'.tripId = order.tripId ∧
      (order.status = completedStatus → order'.status = completedStatus) := by
  rcases hc.order o with e | ⟨row, hr, e⟩
  · exact ⟨order, e.trans ho, rfl, id⟩
  · rw [ho] at hr
    cases hr
    exact ⟨_, e, rfl, fun _ => rfl⟩

/-- Marking rows completed keeps a trip's id. -/
theorem CompletesOnly.trip_found (hc : s.CompletesOnly s') {t : String} {trip : TripRow}
    (ht : s.trips[t]? = some trip) :
    ∃ trip' : TripRow, s'.trips[t]? = some trip' ∧ trip'.id = trip.id ∧
      (trip.status = completedStatus → trip'.status = completedStatus) := by
  rcases hc.trip t with e | ⟨row, hr, e⟩
  · exact ⟨trip, e.trans ht, rfl, id⟩
  · rw [ht] at hr
    cases hr
    exact ⟨_, e, rfl, fun _ => rfl⟩

theorem findOrder_eq_some {o : String} {order : OrderRow} :
    s.findOrder o = .ok (some order) ↔ s.closed = false ∧ s.orders[o]? = some order := by
  cases hc : s.closed <;> simp [findOrder, guard, hc, Std.TreeMap.get?_eq_getElem?]

theorem findTrip_eq_some {t : String} {trip : TripRow} :
    s.findTrip t = .ok (some trip) ↔ s.closed = false ∧ s.trips[t]? = some trip := by
  cases hc : s.closed <;> simp [findTrip, guard, hc, Std.TreeMap.get?_eq_getElem?]

theorem hasVerified_of_mem (hopen : s.closed = false) {o t : String} {r : CodeRow}
    (hr : r ∈ s.codesOf o t) (hv : r.verified = true) : s.hasVerified o t = .ok true := by
  simpa [hasVerified, guard, hopen] using ⟨r, hr, hv⟩

/-- Saving an order of the store as completed, under its own code. -/
theorem saveOrder_completed (hopen : s.closed = false) {o : String} {order : OrderRow}
    (ho : s.orders[o]? = some order) (hcode : order.orderCode = o) :
    s.saveOrder o order.tripId order.email completedStatus =
      .ok (order.id, { s with
        orders := s.orders.insert o { order with status := completedStatus }
        lastOrderId := s.lastOrderId + 1 }) := by
  subst hcode
  simp [saveOrder, guard, hopen, Std.TreeMap.get?_eq_getElem?, ho]

/-- Saving a trip of the store as completed, under its own code. -/
theorem saveTrip_completed (hopen : s.closed = false) {t : String} {trip : TripRow}
    (ht : s.trips[t]? = some trip) (hcode : trip.tripCode = t) :
    s.saveTrip t trip.robotCode trip.containerCode completedStatus =
      .ok (trip.id, { s with
        trips := s.trips.insert t { trip with status := completedStatus }
        lastTripId := s.lastTripId + 1 }) := by
  subst hcode
  simp [saveTrip, guard, hopen, Std.TreeMap.get?_eq_getElem?, ht]

end Store

namespace Attempt

variable {h : Hub} {o t : String} {order : OrderRow} {trip : TripRow}

/-- A lookup answers a pair only when the store finds its order and trip and they belong
together. -/
theorem found_of_run_lookup (hl : ((lookup o t).run.run h).1 = .ok (.ok (order, trip))) :
    h.store.findOrder o = .ok (some order) ∧ h.store.findTrip t = .ok (some trip) ∧
      order.tripId = trip.id := by
  rcases hfo : h.store.findOrder o with e | _ | order' <;>
    rcases hft : h.store.findTrip t with e' | _ | trip' <;>
    simp [lookup, hfo, hft, -ExceptT.run_bind] at hl
  by_cases hid : order'.tripId = trip'.id
  · simp [hid] at hl
    obtain ⟨rfl, rfl⟩ := hl
    exact ⟨rfl, rfl, hid⟩
  · simp [hid] at hl

theorem run_lookup_of_found (ho : h.store.findOrder o = .ok (some order))
    (ht : h.store.findTrip t = .ok (some trip)) (hid : order.tripId = trip.id) :
    (lookup o t).run.run h = (.ok (.ok (order, trip)), h) := by
  simp [lookup, ho, ht, hid, -ExceptT.run_bind]

/-- Completing a pair whose order and trip the open store finds, filed under their codes and
belonging together, changes the store at most by marking the two completed. When both are
completed already or a code row of the pair is verified, it answers completed and leaves both
completed. -/
theorem run_complete_of_found (hopen : h.store.closed = false)
    (ho : h.store.orders[o]? = some order) (hoc : order.orderCode = o)
    (ht : h.store.trips[t]? = some trip) (htc : trip.tripCode = t) (hid : order.tripId = trip.id) :
    h.store.CompletesOnly ((complete o t).run.run h).2.store ∧
      ((order.status = completedStatus ∧ trip.status = completedStatus) ∨
          h.store.hasVerified o t = .ok true →
        ((complete o t).run.run h).1 = .ok .completed ∧
          ((complete o t).run.run h).2.store.orders[o]? =
            some { order with status := completedStatus } ∧
          ((complete o t).run.run h).2.store.trips[t]? =
            some { trip with status := completedStatus }) := by
  subst hoc htc
  have hlook := run_lookup_of_found (Store.findOrder_eq_some.2 ⟨hopen, ho⟩)
    (Store.findTrip_eq_some.2 ⟨hopen, ht⟩) hid
  by_cases hdone : order.status = completedStatus ∧ trip.status = completedStatus
  · -- both completed: nothing is written
    have horder : { order with status := completedStatus } = order := by
      cases order
      simp_all
    have htrip : { trip with status := completedStatus } = trip := by
      cases trip
      simp_all
    simp only [horder, htrip]
    simp [complete, hlook, hdone, ho, ht, -ExceptT.run_bind]
    exact .refl _
  rcases hv : h.store.hasVerified order.orderCode trip.tripCode with e | _ | _
  · simp [complete, hlook, hdone, hv, -ExceptT.run_bind]
    exact .refl _
  · simp [complete, hlook, hdone, hv, -ExceptT.run_bind]
    exact .refl _
  -- a verified row: what is not completed yet is saved completed
  by_cases hno : order.status = completedStatus <;> by_cases hnt : trip.status = completedStatus
  · exact absurd ⟨hno, hnt⟩ hdone
  · have horder : { order with status := completedStatus } = order := by
      cases order
      simp_all
    simp [complete, hlook, hv, hno, hnt, horder, Store.saveTrip_completed, hopen, ht,
      -ExceptT.run_bind]
    dsimp only [Functor.map]
    exact ⟨Store.completesOnly_of_rows (.inl rfl) (.inr ⟨_, trip, ht, rfl⟩), rfl, by simp [ho], by simp⟩
  · have htrip : { trip with status := completedStatus } = trip := by
      cases trip
      simp_all
    simp [complete, hlook, hv, hno, hnt, htrip, Store.saveOrder_completed, hopen, ho,
      -ExceptT.run_bind]
    dsimp only [Functor.map]
    exact ⟨Store.completesOnly_of_rows (.inr ⟨_, order, ho, rfl⟩) (.inl rfl), rfl, by simp, by simp [ht]⟩
  · simp [complete, hlook, hv, hno, hnt, Store.saveOrder_completed, Store.saveTrip_completed,
      hopen, ho, ht, -ExceptT.run_bind]
    dsimp only [Functor.map]
    exact ⟨Store.completesOnly_of_rows (.inr ⟨_, order, ho, rfl⟩) (.inr ⟨_, trip, ht, rfl⟩), rfl,
      by simp, by simp⟩

/-- On a store that files orders and trips under their codes, a completion of any pair changes
the store at most by marking orders and trips completed. -/
theorem completesOnly_run_complete (hk : h.store.PairsKeyed) :
    h.store.CompletesOnly ((complete o t).run.run h).2.store := by
  have hstate := lookup_state o t h
  rcases hl : ((lookup o t).run.run h).1 with e | e | ⟨order, trip⟩
  · -- the lookup broke off, or answered without a pair: nothing is written
    have hrun : (lookup o t).run.run h = (.error e, h) := Prod.ext hl hstate
    simp [complete, hrun, -ExceptT.run_bind]
    exact .refl _
  · have hrun : (lookup o t).run.run h = (.ok (.error e), h) := Prod.ext hl hstate
    simp [complete, hrun, -ExceptT.run_bind]
    exact .refl _
  · obtain ⟨hfo, hft, hid⟩ := found_of_run_lookup hl
    obtain ⟨hopen, ho⟩ := Store.findOrder_eq_some.1 hfo
    obtain ⟨-, ht⟩ := Store.findTrip_eq_some.1 hft
    exact (run_complete_of_found hopen ho (hk.order _ _ ho) ht (hk.trip _ _ ht) hid).1

end Attempt

namespace Hub

variable {h : Hub} {o t c : String} {r otp : CodeRow}

/-- The orders and the trips of the store. -/
def pairRows (h : Hub) : Std.TreeMap String OrderRow compare × Std.TreeMap String TripRow compare :=
  (h.store.orders, h.store.trips)

theorem completesOnly_of_pairRows {h' : Hub} (he : h'.pairRows = h.pairRows) :
    h.store.CompletesOnly h'.store :=
  .of_eq (congrArg Prod.fst he) (congrArg Prod.snd he)

theorem send_pairRows (o t : String) : (h.send o t).2.pairRows = h.pairRows :=
  runPickup_preserves h pairRows (fun _ _ => rfl)
    (Attempt.preserves_send (fun _ _ => rfl) (fun _ _ => rfl) (fun _ _ => rfl) o t) _

theorem resend_pairRows (o t : String) : (h.resend o t).2.pairRows = h.pairRows :=
  runPickup_preserves h pairRows (fun _ _ => rfl)
    (Attempt.preserves_resend (fun _ _ => rfl) (fun _ _ => rfl) (fun _ _ => rfl) o t) _

theorem verify_pairRows (o t c : String) : (h.verify o t c).2.pairRows = h.pairRows := by
  simp only [pairRows, verify_store]
  split <;> rfl

theorem cleanup_pairRows : h.cleanup.2.pairRows = h.pairRows := by
  rw [cleanup_eq]
  split <;> rfl

theorem completesOnly_complete (hk : h.store.PairsKeyed) (o t : String) :
    h.store.CompletesOnly (h.complete o t).2.store :=
  Attempt.completesOnly_run_complete hk

/-- Whether a cleanup at the hub's clock keeps a code row: the row has not expired, or it was
created within the resend window. -/
def cleanupKeeps (h : Hub) (r : CodeRow) : Bool :=
  !Store.expiredBy h.now.toStored (h.now.add (-h.settings.resendWindow)).toStored r

@[simp] theorem cleanupKeeps_markRow (o t c : String) (stamp : Int) (r : CodeRow) :
    h.cleanupKeeps (Store.markRow o t c stamp r) = h.cleanupKeeps r := by
  simp [cleanupKeeps, Store.expiredBy]

end Hub

namespace PickupOp

variable {h : Hub}

/-- A pickup operation changes orders and trips at most by marking them completed. -/
theorem completesOnly_run (hk : h.store.PairsKeyed) (op : PickupOp) :
    h.store.CompletesOnly (op.run h).2.store := by
  cases op with
  | send o t => exact Hub.completesOnly_of_pairRows (Hub.send_pairRows o t)
  | resend o t => exact Hub.completesOnly_of_pairRows (Hub.resend_pairRows o t)
  | verify o t c => exact Hub.completesOnly_of_pairRows (Hub.verify_pairRows o t c)
  | complete o t => exact Hub.completesOnly_complete hk o t
  | cleanup => exact Hub.completesOnly_of_pairRows Hub.cleanup_pairRows
  | advance d => exact .refl _

end PickupOp

namespace Hub

variable {h : Hub} {o t c : String} {r otp : CodeRow}

/-- The store can close the pickup of a pair: it is open, files every order and trip under its
code, and finds the pair's order and trip, which belong together. -/
structure PairFound (o t : String) (h : Hub) : Prop where
  open_ : h.store.closed = false
  keyed : h.store.PairsKeyed
  rows : ∃ (order : OrderRow) (trip : TripRow), h.store.orders[o]? = some order ∧
    h.store.trips[t]? = some trip ∧ order.tripId = trip.id

/-- The store finds the pair's order and trip both completed. -/
def PickupDone (o t : String) (h : Hub) : Prop :=
  ∃ (order : OrderRow) (trip : TripRow), h.store.orders[o]? = some order ∧
    h.store.trips[t]? = some trip ∧ order.status = completedStatus ∧ trip.status = completedStatus

/-- The pair keeps the verified code row `r`. -/
def KeepsVerified (o t : String) (r : CodeRow) (h : Hub) : Prop :=
  r ∈ h.store.codesOf o t ∧ r.verified = true

theorem PairFound.run (hf : h.PairFound o t) (op : PickupOp) : (op.run h).2.PairFound o t := by
  have hc := PickupOp.completesOnly_run hf.keyed op
  obtain ⟨order, trip, ho, ht, hid⟩ := hf.rows
  obtain ⟨order', ho', hid', -⟩ := hc.order_found ho
  obtain ⟨trip', ht', htid, -⟩ := hc.trip_found ht
  exact ⟨(PickupOp.closed_run op).trans hf.open_, hf.keyed.of_completesOnly hc,
    order', trip', ho', ht', by rw [hid', htid, hid]⟩

theorem PickupDone.run (hk : h.store.PairsKeyed) (hd : h.PickupDone o t) (op : PickupOp) :
    (op.run h).2.PickupDone o t := by
  have hc := PickupOp.completesOnly_run hk op
  obtain ⟨order, trip, ho, ht, hos, hts⟩ := hd
  obtain ⟨order', ho', -, hos'⟩ := hc.order_found ho
  obtain ⟨trip', ht', -, hts'⟩ := hc.trip_found ht
  exact ⟨order', trip', ho', ht', hos' hos, hts' hts⟩

/-- A verified row of a pair stays through every operation, a cleanup that deletes it apart. -/
theorem KeepsVerified.run (hv : h.KeepsVerified o t r) (op : PickupOp)
    (hkeep : op = .cleanup → h.cleanupKeeps r = true) : (op.run h).2.KeepsVerified o t r := by
  obtain ⟨hm, hver⟩ := hv
  refine ⟨?_, hver⟩
  cases PickupOp.pairStep o t op h with
  | keep e => rw [e]; exact hm
  | fresh _ _ _ _ e => rw [e]; exact List.mem_append_left _ hm
  | copy _ _ _ _ e => rw [e]; exact List.mem_append_left _ hm
  | mark o' t' c' _ _ _ e =>
    rw [e]
    -- a verified row awaits no verification, so marking leaves it as it is
    have hsame : Store.markRow o' t' c' h.now.toStored r = r :=
      Store.markRow_of_not_awaits _ _ _ _ _ (by simp [Store.awaitsVerification, hver])
    exact List.mem_map.2 ⟨r, hm, hsame⟩
  | purge hop e =>
    rw [e]
    exact List.mem_filter.2 ⟨hm, hkeep hop⟩

/-- A completion of a pair the store can close, completed already or keeping a verified row,
answers completed and leaves the pair completed. -/
theorem complete_of_pairFound (hf : h.PairFound o t) (hr : h.PickupDone o t ∨ h.KeepsVerified o t r) :
    (h.complete o t).1 = .completed ∧ (h.complete o t).2.PickupDone o t := by
  obtain ⟨order, trip, ho, ht, hid⟩ := hf.rows
  have hready : (order.status = completedStatus ∧ trip.status = completedStatus) ∨
      h.store.hasVerified o t = .ok true := by
    rcases hr with ⟨order', trip', ho', ht', hos, hts⟩ | ⟨hm, hv⟩
    · rw [ho] at ho'
      rw [ht] at ht'
      cases ho'
      cases ht'
      exact .inl ⟨hos, hts⟩
    · exact .inr (Store.hasVerified_of_mem hf.open_ hm hv)
  obtain ⟨hans, ho', ht'⟩ := (Attempt.run_complete_of_found hf.open_ ho (hf.keyed.order _ _ ho) ht
    (hf.keyed.trip _ _ ht) hid).2 hready
  refine ⟨?_, _, _, ho', ht', rfl, rfl⟩
  simp [complete, runPickup_eq, hans]

/-- Whether every cleanup of a run from `h`, up to the first completion of the pair, keeps the
code row `r`. -/
def cleanupsKeep (o t : String) (r : CodeRow) : Hub → List PickupOp → Bool
  | _, [] => true
  | h, op :: ops => op == .complete o t ||
      ((op != .cleanup || h.cleanupKeeps r) && cleanupsKeep o t r (op.run h).2 ops)

@[simp] theorem cleanupsKeep_markRow (o' t' c' : String) (stamp : Int) (ops : List PickupOp) :
    cleanupsKeep o t (Store.markRow o' t' c' stamp r) h ops = cleanupsKeep o t r h ops := by
  induction ops generalizing h with
  | nil => rfl
  | cons op ops ih => simp [cleanupsKeep, ih]

/-- A completed pair stays completed over any run. -/
theorem pickupDone_exec (hf : h.PairFound o t) (hd : h.PickupDone o t) (ops : List PickupOp) :
    (h.exec ops).PairFound o t ∧ (h.exec ops).PickupDone o t := by
  induction ops generalizing h with
  | nil => exact ⟨hf, hd⟩
  | cons op ops ih => exact ih (hf.run op) (hd.run hf.keyed op)

/-- Over a run in which every cleanup up to the pair's first completion keeps the verified row
`r`, a pair the store can close stays completed or keeps the row. -/
theorem closable_exec (hf : h.PairFound o t) (hr : h.PickupDone o t ∨ h.KeepsVerified o t r)
    (ops : List PickupOp) (hkeep : cleanupsKeep o t r h ops = true) :
    (h.exec ops).PairFound o t ∧ ((h.exec ops).PickupDone o t ∨ (h.exec ops).KeepsVerified o t r) := by
  induction ops generalizing h with
  | nil => exact ⟨hf, hr⟩
  | cons op ops ih =>
    rw [exec_cons]
    by_cases hop : op = .complete o t
    · -- the pair's first completion closes it, and it stays closed
      subst hop
      obtain ⟨hf', hd'⟩ := pickupDone_exec (hf.run (.complete o t)) (complete_of_pairFound hf hr).2 ops
      exact ⟨hf', .inl hd'⟩
    · simp only [cleanupsKeep, beq_iff_eq, hop, bne_iff_ne, ne_eq, Bool.and_eq_true,
        Bool.or_eq_true, false_or] at hkeep
      obtain ⟨hclean, hrest⟩ := hkeep
      have hr' : (op.run h).2.PickupDone o t ∨ (op.run h).2.KeepsVerified o t r := by
        rcases hr with hd | hv
        · exact .inl (hd.run hf.keyed op)
        · exact .inr (hv.run op fun hc => hclean.resolve_left (not_not.2 hc))
      exact ih (hf.run op) hr' hrest

/-- An accepted verification leaves the accepted row of the pair marked verified. -/
theorem keepsVerified_verify (ha : h.Accepts o t c otp) :
    (h.verify o t c).2.KeepsVerified o t (Store.markRow o t c h.now.toStored otp) := by
  have hv : (h.verify o t c).1 = .verified := verify_eq_verified_iff.2 ⟨otp, ha⟩
  obtain ⟨hmem, hawaits⟩ := Store.awaits_of_latestUnverified ha.candidate
  have hpair : otp.orderCode = o ∧ otp.tripCode = t := by
    simp only [Store.awaitsVerification, Bool.and_eq_true, beq_iff_eq] at hawaits
    exact ⟨hawaits.1.1.1, hawaits.1.1.2⟩
  have hstore := verify_store (h := h) (o := o) (t := t) (c := c)
  rw [if_pos hv] at hstore
  refine ⟨?_, by simp [hawaits]⟩
  rw [hstore, Store.mem_codesOf]
  exact ⟨List.mem_map_of_mem hmem, by simp [hpair], by simp [hpair]⟩

/-- The demonstration hub can close the pickup of its one pair. -/
theorem pickupDemo_pairFound (start : Instant) (codes : List String) :
    (pickupDemo start codes).PairFound "O1" "T1" where
  open_ := rfl
  keyed := by
    constructor
    · intro k row hk
      by_cases hk' : "O1" = k
      · subst hk'
        simp only [pickupDemo, Std.TreeMap.getElem?_insert_self, Option.some.injEq] at hk
        rw [← hk]
      · simp [pickupDemo, hk'] at hk
    · intro k row hk
      by_cases hk' : "T1" = k
      · subst hk'
        simp only [pickupDemo, Std.TreeMap.getElem?_insert_self, Option.some.injEq] at hk
        rw [← hk]
      · simp [pickupDemo, hk'] at hk
  rows := ⟨⟨1, "O1", 1, "a@b.c", "PENDING"⟩, ⟨1, "T1", "R1", "C1", "LOADING"⟩,
    by simp [pickupDemo], by simp [pickupDemo], rfl⟩

end Hub

end DeliveryFleet
