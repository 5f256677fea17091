import DeliveryFleet.Proofs.Pickup.Attempt

/-!
# The pickup operations

What each pickup operation does to the hub, said once so that later proofs cite it and never
unfold an operation:

* a verification answers `verified` exactly when the hub `Accepts` the code
  (`verify_eq_verified_iff`); it then marks the pair's unverified rows of the code verified at the
  hub's clock (`Hub.consume`) and hands the trip's robot the commands of `Hub.unlockCommands`
  (`release_eq`); otherwise it changes nothing but the counters (`verify_hub`);
* a send appends at most one row, a fresh one for a code it draws (`send_rows`); a resend does the
  same or appends a copy of the pair's newest active row (`resend_rows`);
* completing a pickup changes no code row (`complete_keeps`), and a cleanup keeps the rows that have
  not expired or are still inside the resend window (`cleanup_eq`);
* none of them moves the clock, changes the settings or opens or closes the store (`Hub.frame`),
  and only a verification publishes commands.
-/

namespace DeliveryFleet


open Attempt

namespace Hub

variable (h : Hub)

/-! ## Counting an outcome -/

@[simp] theorem countPickup_store (op s : String) : (h.countPickup op s).store = h.store := rfl
@[simp] theorem countPickup_codes (op s : String) : (h.countPickup op s).codes = h.codes := rfl
@[simp] theorem countPickup_now (op s : String) : (h.countPickup op s).now = h.now := rfl
@[simp] theorem countPickup_settings (op s : String) :
    (h.countPickup op s).settings = h.settings := rfl
@[simp] theorem countPickup_outbox (op s : String) : (h.countPickup op s).outbox = h.outbox := rfl

/-- A pickup operation answers what its attempt answers, `serverError` for a break-off, and leaves
the hub its attempt left, with the outcome counted. -/
theorem runPickup_eq (op : String) (a : Attempt Outcome) :
    h.runPickup op a =
      ((match (a.run.run h).1 with
        | .ok o => o
        | .error _ => .serverError),
       (a.run.run h).2.countPickup op (match (a.run.run h).1 with
        | .ok o => o
        | .error _ => .serverError).name) := rfl

/-- A view that ignores the counters and that an attempt keeps is kept by the operation. -/
theorem runPickup_preserves {γ : Type} (view : Hub → γ)
    (hc : ∀ (h : Hub) n, view { h with counters := n } = view h) {a : Attempt Outcome}
    (ha : Preserves view a) (op : String) : view (h.runPickup op a).2 = view h :=
  (hc _ _).trans (ha h)

/-- The clock, the settings and whether the store answers: no pickup operation changes them. -/
def frame : Instant × Settings × Bool := (h.now, h.settings, h.store.closed)

/-! ## Publishing commands -/

/-- What handing commands to the publisher adds to the outbox: nothing without a publisher, and
otherwise one publication per command, marked failed when the publisher fails. -/
def publications (cs : List Command) : List Publication :=
  match h.settings.publisher with
  | .absent => []
  | mode => cs.map fun c => ⟨c.topic h.settings.root, h.settings.qos, c.payload, mode == .failing⟩

theorem publish_eq (c : Command) :
    (h.publish c).1 =
      { h with outbox := { h.outbox with
          publications := h.outbox.publications ++ h.publications [c] } } := by
  unfold publish publications
  cases h.settings.publisher <;> simp <;> rfl

@[simp] theorem publications_nil : h.publications [] = [] := by
  unfold publications
  split <;> rfl

@[simp] theorem publications_append (cs ds : List Command) :
    h.publications (cs ++ ds) = h.publications cs ++ h.publications ds := by
  unfold publications
  split <;> simp

@[simp] theorem publications_withOutbox (x : Outbox) (cs : List Command) :
    ({ h with outbox := x }).publications cs = h.publications cs := rfl

/-- The commands an accepted code sends to the robot of the trip: open the container, when the trip
has one, and drop the trip's QR code; none unless the store finds the trip and it is ready for
pickup. -/
def unlockCommands (o t : String) : List Command :=
  match h.store.findTrip t with
  | .ok (some trip) =>
    if trip.readyForPickup then
      (if trip.containerCode.isEmpty then []
       else [.openContainer trip.robotCode trip.containerCode o trip.tripCode]) ++
        [.invalidateQr trip.robotCode trip.tripCode]
    else []
  | _ => []

/-! ## Verifying a code -/

/-- A hub accepts `c` for a pair, with `otp` the row it checks: the store answers, `otp` is the
newest unverified row of the pair carrying `c` and has not expired, and the newest active row of
the pair, if there is one, carries `c`. -/
structure Accepts (o t c : String) (otp : CodeRow) : Prop where
  open_ : h.store.closed = false
  candidate : h.store.latestUnverified o t c = .ok (some otp)
  unexpired : h.now.before (Instant.ofStored otp.expiresAt) = true
  newest : ∀ latest, h.store.latestActive o t h.now.toStored = .ok (some latest) → latest.code = c

/-- The hub once the unverified rows of a pair carrying `c` are marked verified at its clock. -/
def consume (o t c : String) : Hub :=
  { h with store := { h.store with codes := h.store.codes.map (Store.markRow o t c h.now.toStored) } }

/-- What follows an accepted code: the trip's robot is told to open the container and drop the
QR code, when the store finds the trip and it is ready for pickup. -/
def release (o t : String) : Hub :=
  match h.store.findTrip t with
  | .ok (some trip) => if trip.readyForPickup then ((Attempt.unlock o trip).run.run h).2 else h
  | _ => h

/-- A release publishes the unlock commands and changes nothing else. -/
theorem release_eq (o t : String) :
    h.release o t =
      { h with outbox := { h.outbox with
          publications := h.outbox.publications ++ h.publications (h.unlockCommands o t) } } := by
  unfold release unlockCommands
  rcases h.store.findTrip t with _ | _ | trip
  · simp
  · simp
  · by_cases hr : trip.readyForPickup
    · simp only [hr, if_true, run_unlock]
      cases trip.containerCode.isEmpty with
      | false =>
        simp only [publish_eq, publications_withOutbox, Bool.false_eq_true, if_false]
        rw [List.append_assoc, ← publications_append]
      | true => simp [publish_eq]
    · simp [hr]

@[simp] theorem consume_findTrip (o t c t' : String) :
    (h.consume o t c).store.findTrip t' = h.store.findTrip t' := rfl

end Hub

namespace Attempt

variable {h : Hub} {o t c : String}

/-- After an accepted code, a verification unlocks a ready trip and answers `verified`. -/
theorem run_unlock_verified (o : String) (trip : TripRow) (h : Hub) :
    (if trip.readyForPickup = true then (fun _ => Outcome.verified) <$> unlock o trip
      else pure Outcome.verified : Attempt Outcome).run.run h =
      (.ok .verified, if trip.readyForPickup = true then ((unlock o trip).run.run h).2 else h) := by
  split
  · simp only [run_map, run_unlock]
    rfl
  · rfl

theorem verify_of_accepts {otp : CodeRow} (ha : h.Accepts o t c otp) :
    (verify o t c).run.run h = (.ok .verified, (h.consume o t c).release o t) := by
  obtain ⟨hm, haw⟩ := Store.awaits_of_latestUnverified ha.candidate
  have hcode : otp.code = c := by simp_all [Store.awaitsVerification]
  have hn : ¬ ∀ r ∈ h.store.codes, Store.awaitsVerification o t c r = false :=
    fun hall => by simp [hall otp hm] at haw
  unfold Hub.release Hub.consume
  cases hl : h.store.latestActive o t h.now.toStored with
  | error e => simp [Store.latestActive, Store.guard, ha.open_] at hl
  | ok latest =>
    have hcheck : ∀ l, latest = some l → l.code = c := fun l hl' => ha.newest l (hl ▸ hl' ▸ rfl)
    -- every check passes; what is left is the unlock of the trip when it is ready
    cases latest <;> rcases ht : h.store.findTrip t with _ | _ | trip <;>
      simp [verify, ha.candidate, ha.unexpired, hl, Store.markVerified_of_open ha.open_, hcode, hn,
        ht, hcheck, run_unlock_verified, -ExceptT.run_bind]

/-- A verification the hub does not accept answers `invalidCode` or `expired` and changes nothing,
when the store answers. -/
theorem verify_of_not_accepts (hs : h.store.closed = false) (hn : ∀ otp, ¬ h.Accepts o t c otp) :
    ∃ out, (out = .invalidCode ∨ out = .expired) ∧ (verify o t c).run.run h = (.ok out, h) := by
  have hl := Store.latestActive_of_open hs o t h.now.toStored
  cases hu : newest? ((h.store.codesOf o t).filter fun r => !r.verified && r.code == c) with
  | none =>
    refine ⟨_, Or.inl rfl, ?_⟩
    simp [verify, Store.latestUnverified_of_open hs, hu, -ExceptT.run_bind]
  | some otp =>
    have hcand : h.store.latestUnverified o t c = .ok (some otp) := by
      rw [Store.latestUnverified_of_open hs, hu]
    cases hf : h.now.before (Instant.ofStored otp.expiresAt)
    · exact ⟨_, Or.inr rfl, by simp [verify, hcand, hf, -ExceptT.run_bind]⟩
    · cases hlat : newest? ((h.store.codesOf o t).filter fun r =>
          !r.verified && decide (h.now.toStored < r.expiresAt)) with
      | none =>
        refine absurd ⟨hs, hcand, hf, fun latest hl' => ?_⟩ (hn otp)
        simp [hl, hlat] at hl'
      | some latest =>
        by_cases hc : latest.code = c
        · refine absurd ⟨hs, hcand, hf, fun l hl' => ?_⟩ (hn otp)
          simp only [hl, hlat, Except.ok.injEq, Option.some.injEq] at hl'
          exact hl' ▸ hc
        · exact ⟨_, Or.inl rfl, by simp [verify, hcand, hf, hl, hlat, hc, -ExceptT.run_bind]⟩

theorem verify_of_closed (hs : h.store.closed = true) :
    (verify o t c).run.run h = (.error (.store ⟨"find pickup otp"⟩), h) := by
  simp [verify, Store.latestUnverified, Store.guard, hs, -ExceptT.run_bind]

end Attempt

namespace Hub

variable {h : Hub} {o t c : String}

theorem verify_of_accepts {otp : CodeRow} (ha : h.Accepts o t c otp) :
    h.verify o t c =
      (.verified, ((h.consume o t c).release o t).countPickup "verify" "OTP_VERIFIED") := by
  simp [verify, runPickup_eq, Attempt.verify_of_accepts ha, Outcome.name]

theorem verify_of_not_accepts (hs : h.store.closed = false) (hn : ∀ otp, ¬ h.Accepts o t c otp) :
    ∃ out, (out = .invalidCode ∨ out = .expired) ∧
      h.verify o t c = (out, h.countPickup "verify" out.name) := by
  obtain ⟨out, hout, hrun⟩ := Attempt.verify_of_not_accepts hs hn
  exact ⟨out, hout, by simp [verify, runPickup_eq, hrun]⟩

theorem verify_of_closed (hs : h.store.closed = true) :
    h.verify o t c = (.serverError, h.countPickup "verify" "SERVER_ERROR") := by
  simp [verify, runPickup_eq, Attempt.verify_of_closed hs, Outcome.name]

theorem verify_eq_verified_iff : (h.verify o t c).1 = .verified ↔ ∃ otp, h.Accepts o t c otp := by
  constructor
  · intro hv
    by_contra hn
    simp only [not_exists] at hn
    cases hs : h.store.closed
    · obtain ⟨out, hout, hrun⟩ := verify_of_not_accepts hs hn
      rw [hrun] at hv
      rcases hout with rfl | rfl <;> cases hv
    · rw [verify_of_closed hs] at hv
      cases hv
  · rintro ⟨otp, ha⟩
    rw [verify_of_accepts ha]

/-- A verification leaves the hub as it found it, but for the counters, unless it answers
`verified`; then it consumes the code and releases the trip. -/
theorem verify_hub :
    (h.verify o t c).2 =
      (if (h.verify o t c).1 = .verified then (h.consume o t c).release o t else h).countPickup
        "verify" (h.verify o t c).1.name := by
  by_cases ha : ∃ otp, h.Accepts o t c otp
  · obtain ⟨otp, ha⟩ := ha
    simp [verify_of_accepts ha, Outcome.name]
  · have hv : (h.verify o t c).1 ≠ .verified := fun hv => ha (verify_eq_verified_iff.1 hv)
    rw [if_neg hv]
    simp only [not_exists] at ha
    cases hs : h.store.closed
    · obtain ⟨out, -, hrun⟩ := verify_of_not_accepts hs ha
      rw [hrun]
    · rw [verify_of_closed hs]
      rfl

theorem verify_frame : (h.verify o t c).2.frame = h.frame := by
  rw [verify_hub]
  split <;> simp [frame, release_eq, consume]

/-- A verification changes the store only when it answers `verified`, and then only by marking the
rows awaiting it verified at the hub's clock. -/
theorem verify_store :
    (h.verify o t c).2.store =
      if (h.verify o t c).1 = .verified then
        { h.store with codes := h.store.codes.map (Store.markRow o t c h.now.toStored) }
      else h.store := by
  rw [verify_hub]
  split <;> simp [release_eq, consume]

/-- A verification publishes the unlock commands of the trip when it answers `verified`, and nothing
otherwise. -/
theorem verify_publications :
    (h.verify o t c).2.outbox.publications =
      h.outbox.publications ++
        if (h.verify o t c).1 = .verified then h.publications (h.unlockCommands o t) else [] := by
  rw [verify_hub]
  split
  · -- marking rows changes neither the trip the commands are for nor the publisher
    simp only [release_eq, countPickup_outbox]
    rfl
  · simp

/-! ## Sending and resending -/

/-- The row a resend writes for the active row `prev`: its code and expiry, delivered now. -/
def copyRow (h : Hub) (prev : CodeRow) (email : String) : CodeRow :=
  { prev with email, createdAt := h.now.toStored, verified := false, verifiedAt := none }

/-- A send either leaves the rows and the codes still to hand out as they were, or draws a code and
appends its fresh row when the store answers. -/
theorem send_rows :
    ((h.send o t).2.store.codes = h.store.codes ∧ (h.send o t).2.codes = h.codes) ∨
    ∃ c email, h.codes = c :: (h.send o t).2.codes ∧
      (h.send o t).2.store.codes =
        if h.store.closed then h.store.codes else h.store.codes ++ [h.freshRow o t c email] := by
  obtain ⟨r, he⟩ : ∃ r, (Attempt.eligible o t).run.run h = (r, h) :=
    ⟨_, Prod.ext rfl (Attempt.eligible_state o t h)⟩
  simp only [send, runPickup_eq, countPickup_store, countPickup_codes, Attempt.send, run_bind, he]
  rcases r with e | out | ⟨order, trip⟩
  · exact Or.inl ⟨rfl, rfl⟩
  · exact Or.inl ⟨rfl, rfl⟩
  · rcases Attempt.issue_rows order o t h with ⟨-, hi⟩ | ⟨c, hc, hi⟩
    · exact Or.inl ⟨by simp [hi], by simp [hi]⟩
    · exact Or.inr ⟨c, order.email, hc, hi⟩

/-- A resend either leaves the rows and the codes still to hand out as they were, or issues a fresh
code as a send does, or appends a copy of the pair's newest active row. -/
theorem resend_rows :
    ((h.resend o t).2.store.codes = h.store.codes ∧ (h.resend o t).2.codes = h.codes) ∨
    (∃ c email, h.codes = c :: (h.resend o t).2.codes ∧
      (h.resend o t).2.store.codes =
        if h.store.closed then h.store.codes else h.store.codes ++ [h.freshRow o t c email]) ∨
    (∃ prev email, h.store.latestActive o t h.now.toStored = .ok (some prev) ∧
      (h.resend o t).2.codes = h.codes ∧
      (h.resend o t).2.store.codes = h.store.codes ++ [h.copyRow prev email]) := by
  obtain ⟨r, he⟩ : ∃ r, (Attempt.eligible o t).run.run h = (r, h) :=
    ⟨_, Prod.ext rfl (Attempt.eligible_state o t h)⟩
  simp only [resend, runPickup_eq, countPickup_store, countPickup_codes, Attempt.resend, run_bind,
    he]
  rcases r with e | out | ⟨order, trip⟩
  · exact Or.inl ⟨rfl, rfl⟩
  · exact Or.inl ⟨rfl, rfl⟩
  · cases hs : h.store.closed
    · simp only [run_bind, run_get, run_query, Store.countCreatedSince_of_open hs]
      split
      · exact Or.inl ⟨rfl, rfl⟩
      · simp only [run_bind, run_query, Store.latestActive_of_open hs]
        cases hl : newest? ((h.store.codesOf o t).filter fun r =>
            !r.verified && decide (h.now.toStored < r.expiresAt)) with
        | none =>
          dsimp only
          rcases Attempt.issue_rows order o t h with ⟨-, hi⟩ | ⟨c, hc, hi⟩
          · exact Or.inl ⟨by rw [hi], by rw [hi]⟩
          · exact Or.inr (Or.inl ⟨c, order.email, hc, by rw [hi, hs]⟩)
        | some prev =>
          -- the copy is written, then mailed; the mail keeps the rows and the codes
          have hd := Attempt.deliver_preserves prev.orderCode prev.code order.email
            (Instant.ofStored prev.expiresAt)
            { h with store := { h.store with codes := h.store.codes ++ [h.copyRow prev order.email] } }
          simp only [Prod.mk.injEq] at hd
          refine Or.inr (Or.inr ⟨prev, order.email, rfl, ?_⟩)
          simp only [run_bind, run_insert, hs, Bool.false_eq_true, if_false]
          simp only [copyRow, hs] at hd
          split
          · split <;> simp only [run_pure] <;> simp_all [copyRow]
          · simp_all [copyRow]
    · simp [Store.countCreatedSince, Store.guard, hs, -ExceptT.run_bind]

theorem send_frame : (h.send o t).2.frame = h.frame :=
  runPickup_preserves h frame (fun _ _ => rfl)
    (preserves_send (fun _ _ => rfl) (fun _ _ => rfl) (fun _ _ => rfl) o t) _

theorem resend_frame : (h.resend o t).2.frame = h.frame :=
  runPickup_preserves h frame (fun _ _ => rfl)
    (preserves_resend (fun _ _ => rfl) (fun _ _ => rfl) (fun _ _ => rfl) o t) _

theorem send_publications : (h.send o t).2.outbox.publications = h.outbox.publications :=
  runPickup_preserves h (·.outbox.publications) (fun _ _ => rfl)
    (preserves_send (fun _ _ => rfl) (fun _ _ => rfl) (fun _ _ => rfl) o t) _

theorem resend_publications : (h.resend o t).2.outbox.publications = h.outbox.publications :=
  runPickup_preserves h (·.outbox.publications) (fun _ _ => rfl)
    (preserves_resend (fun _ _ => rfl) (fun _ _ => rfl) (fun _ _ => rfl) o t) _

/-! ## Completing and cleaning up -/

/-- Completing a pickup keeps the code rows, the codes still to hand out and the frame, and
publishes nothing. -/
theorem complete_keeps :
    ((h.complete o t).2.store.codes, (h.complete o t).2.codes, (h.complete o t).2.frame,
      (h.complete o t).2.outbox.publications) =
    (h.store.codes, h.codes, h.frame, h.outbox.publications) :=
  runPickup_preserves h (fun h => (h.store.codes, h.codes, h.frame, h.outbox.publications))
    (fun _ _ => rfl) (preserves_complete (fun _ _ hc hs _ _ => by simp [frame, hc, hs]) o t) _

/-- A cleanup deletes the rows that expired before now and were created before the resend window;
on a closed store it only counts the failure. -/
theorem cleanup_eq :
    h.cleanup.2 =
      if h.store.closed then h.countPickup "cleanup" "SERVER_ERROR"
      else { h with store := { h.store with codes := (h.store.codes.filter fun r =>
        !Store.expiredBy h.now.toStored (h.now.add (-h.settings.resendWindow)).toStored r) } } := by
  unfold cleanup
  cases hs : h.store.closed <;> simp [Store.deleteExpired, Store.guard, hs]

theorem cleanup_frame : h.cleanup.2.frame = h.frame := by
  rw [cleanup_eq]
  split <;> rfl

theorem cleanup_publications : h.cleanup.2.outbox.publications = h.outbox.publications := by
  rw [cleanup_eq]
  split <;> rfl

end Hub

end DeliveryFleet
