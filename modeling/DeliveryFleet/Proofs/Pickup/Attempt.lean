import Mathlib
import DeliveryFleet.Hub.Pickup
import DeliveryFleet.Proofs.Store.CodeRows

/-!
# Running a pickup attempt

A pickup attempt (`Attempt`) is a state-and-failure computation on the hub. This module says how
one runs:

* `run_bind`, `run_query`, `run_update` and their companions evaluate a do-block one store call at
  a time, so that a proof about an operation splits on what each call answers;
* `Preserves view a` says that `a` leaves a view of the hub as it found it, on every run; it is
  closed under `bind` (`Preserves.bind`), so an operation preserves a view when each of its calls
  does. `lookup` and `eligible` only read (`eligible_state`);
* an issue draws the next code and appends its fresh row when the store answers (`issue_rows`), a
  delivery adds at most one letter (`deliver_hub`), and an unlock publishes the container and QR
  commands (`run_unlock`).
-/

namespace DeliveryFleet

/-- The row a fresh issue of `c` writes for a pair at a hub's clock. -/
def Hub.freshRow (h : Hub) (o t c email : String) : CodeRow :=
  { orderCode := o, tripCode := t, code := c, email, createdAt := h.now.toStored,
    expiresAt := (h.now.add h.settings.codeTtl).toStored }

namespace Attempt

variable {α β γ : Type}

/-! ## Running an attempt -/

@[simp] theorem run_pure (a : α) (h : Hub) : (pure a : Attempt α).run.run h = (.ok a, h) := rfl

/-- What the general monad lemmas leave of a finished run. -/
@[simp] theorem pure_result (r : Except Fault α × Hub) : (pure r : Id (Except Fault α × Hub)) = r :=
  rfl

@[simp] theorem run_get (h : Hub) : (get : Attempt Hub).run.run h = (.ok h, h) := rfl

@[simp] theorem run_set (h h' : Hub) : (set h' : Attempt Unit).run.run h = (.ok (), h') := rfl

@[simp] theorem run_modify (f : Hub → Hub) (h : Hub) :
    (modify f : Attempt Unit).run.run h = (.ok (), f h) := rfl

@[simp] theorem run_throw (e : Fault) (h : Hub) :
    (throw e : Attempt α).run.run h = (.error e, h) := rfl

@[simp] theorem run_bind (x : Attempt α) (f : α → Attempt β) (h : Hub) :
    (x >>= f).run.run h =
      match x.run.run h with
      | (.ok a, h') => (f a).run.run h'
      | (.error e, h') => (.error e, h') := by
  simp only [ExceptT.run_bind, StateT.run_bind]
  rcases x.run.run h with ⟨_ | a, h'⟩ <;> rfl

@[simp] theorem run_map (x : Attempt α) (f : α → β) (h : Hub) :
    (f <$> x).run.run h = ((x.run.run h).1.map f, (x.run.run h).2) := by
  simp only [ExceptT.run_map, StateT.run_map]
  rcases x.run.run h with ⟨_ | a, h'⟩ <;> rfl

@[simp] theorem run_query (f : Store → Except StoreError α) (h : Hub) :
    (query f).run.run h =
      (match f h.store with
        | .ok a => .ok a
        | .error e => .error (.store e), h) := by
  unfold query
  simp only [run_bind, run_get]
  cases f h.store <;> rfl

@[simp] theorem run_update (f : Store → Except StoreError (α × Store)) (h : Hub) :
    (update f).run.run h =
      match f h.store with
      | .ok (a, s) => (.ok a, { h with store := s })
      | .error e => (.error (.store e), h) := by
  unfold update
  simp only [run_bind, run_get]
  rcases f h.store with _ | ⟨a, s⟩ <;> rfl

/-! ## Views an attempt preserves -/

/-- An attempt preserves a view of the hub when, on every run, the view after it is the view
before it. -/
def Preserves (view : Hub → γ) (a : Attempt α) : Prop := ∀ h, view (a.run.run h).2 = view h

variable {view : Hub → γ}

theorem preserves_pure (a : α) : Preserves view (pure a : Attempt α) := fun _ => rfl

theorem preserves_get : Preserves view (get : Attempt Hub) := fun _ => rfl

theorem preserves_throw (e : Fault) : Preserves view (throw e : Attempt α) := fun _ => rfl

theorem preserves_query (f : Store → Except StoreError α) : Preserves view (query f) := by
  intro h
  simp only [run_query]

theorem Preserves.bind {x : Attempt α} {f : α → Attempt β} (hx : Preserves view x)
    (hf : ∀ a, Preserves view (f a)) : Preserves view (x >>= f) := by
  intro h
  rw [run_bind]
  rcases hr : x.run.run h with ⟨_ | a, h'⟩
  · simpa [hr] using hx h
  · simpa [hr, hf a h'] using hx h

theorem Preserves.map {x : Attempt α} (hx : Preserves view x) (f : α → β) :
    Preserves view (f <$> x) := by
  intro h
  rw [run_map]
  exact hx h

theorem preserves_modify {f : Hub → Hub} (hf : ∀ h, view (f h) = view h) :
    Preserves view (modify f) := hf

theorem preserves_update {f : Store → Except StoreError (α × Store)}
    (hf : ∀ h a s, f h.store = .ok (a, s) → view { h with store := s } = view h) :
    Preserves view (update f) := by
  intro h
  rw [run_update]
  rcases hs : f h.store with _ | ⟨a, s⟩
  · rfl
  · exact hf h a s hs

/-! ## Reading, drawing, writing and mailing -/

theorem lookup_state (o t : String) : Preserves id (lookup o t) := by
  unfold lookup
  refine (preserves_query _).bind fun order => ?_
  split
  · refine (preserves_query _).bind fun trip => ?_
    split
    · split <;> exact preserves_pure _
    · exact preserves_pure _
  · exact preserves_pure _

theorem eligible_state (o t : String) : Preserves id (eligible o t) := by
  unfold eligible
  refine (lookup_state o t).bind fun r => ?_
  split
  · exact preserves_pure _
  · split
    · exact preserves_pure _
    · split <;> exact preserves_pure _

theorem run_nextCode (h : Hub) :
    nextCode.run.run h =
      match h.codes with
      | c :: rest => (.ok c, { h with codes := rest })
      | [] => (.error .codesExhausted, h) := by
  unfold nextCode
  simp only [run_bind, run_get]
  cases h.codes <;> rfl

theorem run_insert (r : CodeRow) (h : Hub) :
    (insert r).run.run h =
      if h.store.closed then (.error (.store ⟨"insert pickup otp"⟩), h)
      else (.ok (), { h with store := { h.store with codes := h.store.codes ++ [r] } }) := by
  unfold insert
  cases hs : h.store.closed <;> simp [Store.insertCode, Store.guard, hs]

/-- A delivery adds at most one letter to the outbox and changes nothing else. -/
theorem deliver_hub (oc c e : String) (x : Instant) (h : Hub) :
    ((deliver oc c e x).run.run h).2 = h ∨
      ∃ l, ((deliver oc c e x).run.run h).2 =
        { h with outbox := { h.outbox with letters := h.outbox.letters ++ [l] } } := by
  unfold deliver
  simp only [run_bind, run_get]
  split
  · exact Or.inl rfl
  · simp only [Hub.sendMail]
    split
    · exact Or.inl rfl
    · split
      · exact Or.inl rfl
      · exact Or.inr ⟨_, rfl⟩

/-- A delivery keeps the store, the codes still to hand out, the clock, the settings and the
commands published. -/
theorem deliver_preserves (oc c e : String) (x : Instant) :
    Preserves (fun h => (h.store, h.codes, h.now, h.settings, h.outbox.publications))
      (deliver oc c e x) := by
  intro h
  rcases deliver_hub oc c e x h with hd | ⟨l, hd⟩ <;> rw [hd]

/-- An issue draws the next code and, when the store answers, appends the fresh row carrying it;
it touches no other row. -/
theorem issue_rows (order : OrderRow) (o t : String) (h : Hub) :
    (h.codes = [] ∧ ((issue order o t).run.run h).2 = h) ∨
    ∃ c, h.codes = c :: ((issue order o t).run.run h).2.codes ∧
      ((issue order o t).run.run h).2.store.codes =
        if h.store.closed then h.store.codes else h.store.codes ++ [h.freshRow o t c order.email] := by
  unfold issue
  rw [run_bind, run_nextCode]
  rcases hc : h.codes with _ | ⟨c, rest⟩
  · exact Or.inl ⟨rfl, rfl⟩
  · right
    refine ⟨c, ?_⟩
    simp only [run_bind, run_get, run_insert]
    cases hs : h.store.closed
    · simp only [Bool.false_eq_true, if_false]
      have hd := deliver_preserves o c order.email (h.now.add h.settings.codeTtl)
        { h with codes := rest, store := { h.store with codes := h.store.codes ++ [h.freshRow o t c order.email] } }
      simp only [Prod.mk.injEq] at hd
      split
      · split <;> simp only [run_pure] <;> simp_all [Hub.freshRow]
      · simp_all [Hub.freshRow]
    · simp

theorem run_unlock (o : String) (trip : TripRow) (h : Hub) :
    (unlock o trip).run.run h =
      (.ok (), ((if trip.containerCode.isEmpty then h
        else (h.publish (.openContainer trip.robotCode trip.containerCode o trip.tripCode)).1).publish
          (.invalidateQr trip.robotCode trip.tripCode)).1) := by
  unfold unlock
  cases trip.containerCode.isEmpty <;>
    simp only [Bool.not_false, Bool.not_true, Bool.false_eq_true, ↓reduceIte, run_bind, run_modify]

/-! ## Views the operations keep

Each call changes one part of the hub: drawing a code the codes still to hand out, writing a row the
store's rows, mailing the outbox's letters, saving an order or a trip everything of the store but
its code rows. An operation keeps every view that each of its calls keeps, so each lemma below
takes the conditions of the calls it makes as hypotheses on the view. -/

theorem Preserves.of_id {a : Attempt α} (ha : Preserves id a) : Preserves view a :=
  fun h => congrArg view (ha h)

section Calls

variable (hcodes : ∀ (h : Hub) l, view { h with codes := l } = view h)
  (hrows : ∀ (h : Hub) l, view { h with store := { h.store with codes := l } } = view h)
  (hmail : ∀ (h : Hub) l, view { h with outbox := { h.outbox with letters := l } } = view h)
  (hsave : ∀ (h : Hub) (s : Store), s.codes = h.store.codes → s.closed = h.store.closed →
    s.robots = h.store.robots → s.containers = h.store.containers →
    view { h with store := s } = view h)

include hcodes in
theorem preserves_nextCode : Preserves view nextCode := by
  intro h
  rw [run_nextCode]
  split
  · exact hcodes h _
  · rfl

include hrows in
theorem preserves_insert (r : CodeRow) : Preserves view (insert r) := by
  intro h
  rw [run_insert]
  split
  · rfl
  · exact hrows h _

include hmail in
theorem preserves_deliver (oc c e : String) (x : Instant) : Preserves view (deliver oc c e x) := by
  intro h
  rcases deliver_hub oc c e x h with hd | ⟨l, hd⟩ <;> rw [hd]
  exact hmail h _

include hcodes hrows hmail in
theorem preserves_issue (order : OrderRow) (o t : String) : Preserves view (issue order o t) := by
  unfold issue
  refine (preserves_nextCode hcodes).bind fun c => preserves_get.bind fun h => ?_
  refine (preserves_insert hrows _).bind fun _ => (preserves_deliver hmail _ _ _ _).bind fun b => ?_
  split <;> exact preserves_pure _

include hcodes hrows hmail in
theorem preserves_send (o t : String) : Preserves view (send o t) := by
  unfold send
  refine (eligible_state o t).of_id.bind fun r => ?_
  split
  · exact preserves_pure _
  · exact preserves_issue hcodes hrows hmail _ _ _

include hcodes hrows hmail in
theorem preserves_resend (o t : String) : Preserves view (resend o t) := by
  unfold resend
  refine (eligible_state o t).of_id.bind fun r => ?_
  split
  · exact preserves_pure _
  · refine preserves_get.bind fun h => (preserves_query _).bind fun n => ?_
    split
    · exact preserves_pure _
    · refine (preserves_query _).bind fun latest => ?_
      split
      · exact preserves_issue hcodes hrows hmail _ _ _
      · refine (preserves_insert hrows _).bind fun _ =>
          (preserves_deliver hmail _ _ _ _).bind fun b => ?_
        split <;> exact preserves_pure _

include hsave in
theorem preserves_saveOrder (order : OrderRow) (status : String) :
    Preserves view (update fun s => s.saveOrder order.orderCode order.tripId order.email status) :=
  preserves_update fun h _ s hs =>
    hsave h s (Store.saveOrder_keeps_codes hs).1 (Store.saveOrder_keeps_codes hs).2
      (Store.saveOrder_keeps_rows hs).1 (Store.saveOrder_keeps_rows hs).2

include hsave in
theorem preserves_saveTrip (trip : TripRow) (status : String) :
    Preserves view
      (update fun s => s.saveTrip trip.tripCode trip.robotCode trip.containerCode status) :=
  preserves_update fun h _ s hs =>
    hsave h s (Store.saveTrip_keeps_codes hs).1 (Store.saveTrip_keeps_codes hs).2
      (Store.saveTrip_keeps_rows hs).1 (Store.saveTrip_keeps_rows hs).2

include hsave in
theorem preserves_complete (o t : String) : Preserves view (complete o t) := by
  unfold complete
  refine (lookup_state o t).of_id.bind fun r => ?_
  dsimp only
  split
  · exact preserves_pure _
  · split
    · exact preserves_pure _
    · refine (preserves_query _).bind fun v => ?_
      split
      · exact preserves_pure _
      · -- the order is saved when it is still open, then the trip when it is
        have closeTrip : ∀ trip : TripRow, Preserves view
            (if (trip.status != completedStatus) = true then do
              let _ ← update fun x =>
                x.saveTrip trip.tripCode trip.robotCode trip.containerCode completedStatus
              pure Outcome.completed
            else pure Outcome.completed) := fun trip => by
          split
          · exact (preserves_saveTrip hsave _ _).bind fun _ => preserves_pure _
          · exact preserves_pure _
        split
        · exact (preserves_saveOrder hsave _ _).bind fun _ => closeTrip _
        · exact closeTrip _

end Calls

end Attempt

end DeliveryFleet
