import DeliveryFleet.Proofs.Pickup.Run

/-!
# Pickup calls running at once

Sends, resends and verifications of one (order, trip) pair may run at the same time. Each of them
is a sequence of atomic steps: a store call, the draw of a code, a mail, the unlock publications.
A `Stage` is where a call stands between two steps, with what it has read so far, and
`Stage.step` takes one step on the hub. Run alone, from its first stage, a call answers what the
operation answers and leaves the same hub (`Call.run_alone`).

An `Interleaving` is the hub with the calls in flight; a schedule says which call steps next, in
any order (`Interleaving.run`).

The question is how often a code is accepted. A resend reads the newest active row and writes a
copy of it one step later; a verification that marks the code in between leaves the copy as a
fresh unverified row, and a second verification accepts the same code again
(`accepted_twice_after_stale_copy`). Whenever every copy lands while a row with its code still
awaits verification, each code drawn for the pair is accepted at most once
(`accepted_at_most_once_per_issue`): the accepted verifications of `c`, and the `c` still to be
handed out, are at most the `c` the generator held at the start, plus one if a row carrying `c`
already awaited verification.
-/

namespace DeliveryFleet

/-- Where a pickup call on a pair stands between two atomic steps, with what it has read. -/
inductive Stage where
  /-- A send (`again = false`) or a resend (`again = true`) looks the order up. -/
  | order (again : Bool)
  /-- It looks the trip up and checks that the pair may take a code. -/
  | trip (again : Bool) (row : OrderRow)
  /-- A resend counts the deliveries within the resend window. -/
  | count (row : OrderRow)
  /-- A resend looks for the pair's active code, at the clock it read. -/
  | active (row : OrderRow) (now : Instant)
  /-- A fresh code is drawn. -/
  | draw (row : OrderRow)
  /-- The fresh code's row is written. -/
  | record (row : OrderRow) (code : String)
  /-- A resend writes its copy of the active row. -/
  | copy (row : OrderRow) (prev : CodeRow) (now : Instant)
  /-- The code is mailed; the call answers `delivered` if the mailer takes it. -/
  | mail (orderCode code email : String) (expiresAt : Instant) (delivered : Outcome)
  /-- A verification looks for the newest unverified row carrying its code. -/
  | candidate (code : String)
  /-- It checks that no newer active code supersedes the candidate. -/
  | newest (code : String) (otp : CodeRow) (now : Instant)
  /-- It marks the rows carrying the code verified. -/
  | mark (otp : CodeRow) (now : Instant)
  /-- It has marked some row and opens the container. -/
  | opening
  /-- The call has answered, or broken off. -/
  | done (result : Except Fault Outcome)

namespace Stage

open Attempt

variable (o t : String)

/-- One atomic step of a call on the pair `(o, t)`, as a pickup attempt that answers the next
stage. Each case is the stretch of the operation between two store calls. -/
def next : Stage → Attempt Stage
  | order again => do
    let some row ← query (·.findOrder o) | return done (.ok .orderNotFound)
    return trip again row
  | trip again row => do
    let some tripRow ← query (·.findTrip t) | return done (.ok .tripNotFound)
    if row.tripId != (tripRow.id : Int) then return done (.ok .tripMismatch)
    if row.status == completedStatus then return done (.ok .alreadyPickedUp)
    if !tripRow.readyForPickup then return done (.ok .notReady)
    return if again then count row else draw row
  | count row => do
    let h ← get
    let since := (h.now.add (-h.settings.resendWindow)).toStored
    let n ← query (·.countCreatedSince o t since)
    if (n : Int) ≥ h.settings.resendLimit then return done (.ok .rateLimited)
    return active row h.now
  | active row now => do
    match ← query (·.latestActive o t now.toStored) with
    | none => return draw row
    | some prev => return copy row prev now
  | draw row => do
    let c ← nextCode
    return record row c
  | record row c => do
    let h ← get
    let expiresAt := h.now.add h.settings.codeTtl
    insert { orderCode := o, tripCode := t, code := c, email := row.email,
             createdAt := h.now.toStored, expiresAt := expiresAt.toStored }
    return mail o c row.email expiresAt .sent
  | copy row prev now => do
    insert { prev with email := row.email, createdAt := now.toStored, verified := false,
                       verifiedAt := none }
    return mail prev.orderCode prev.code row.email (Instant.ofStored prev.expiresAt) .resent
  | mail oc c email exp out => do
    let ok ← deliver oc c email exp
    return done (.ok (if ok then out else .mailFailed))
  | candidate c => do
    let now := (← get).now
    let some otp ← query (·.latestUnverified o t c) | return done (.ok .invalidCode)
    if !now.before (Instant.ofStored otp.expiresAt) then return done (.ok .expired)
    return newest c otp now
  | newest c otp now => do
    if let some latest ← query (·.latestActive o t now.toStored) then
      if latest.code != c then return done (.ok .invalidCode)
    return mark otp now
  | mark otp now => do
    let n ← update (·.markVerified o t otp.code now.toStored)
    if n == 0 then return done (.ok .invalidCode)
    return opening
  | opening => do
    match (← get).store.findTrip t with
    | .ok (some tripRow) => if tripRow.readyForPickup then unlock o tripRow
    | _ => pure ()
    return done (.ok .verified)
  | done r => return done r

/-- Takes one step on the hub; a call that breaks off is done with its fault. -/
def step (p : Stage) (h : Hub) : Stage × Hub :=
  match (p.next o t).run.run h with
  | (.ok q, h') => (q, h')
  | (.error e, h') => (done (.error e), h')

/-- Takes `n` steps of one call with nothing else running. -/
def steps : Nat → Stage × Hub → Stage × Hub
  | 0, s => s
  | n + 1, s => steps n (step o t s.1 s.2)

/-- Whether a call holds an accepted code: it has marked a row, or answered `verified`. -/
def granted : Stage → Bool
  | opening | done (.ok .verified) => true
  | _ => false

/-- Whether a call answered `verified`. -/
def verified : Stage → Bool
  | done (.ok .verified) => true
  | _ => false

theorem granted_of_verified {p : Stage} (hp : p.verified = true) : p.granted = true := by
  unfold verified at hp
  split at hp
  · rfl
  · cases hp

/-- Whether a call is about to write the fresh row of `c`. -/
def writes (c : String) : Stage → Bool
  | record _ c' => c' == c
  | _ => false

/-! ## What one step does -/

section Steps

variable {o t : String} {h : Hub}

theorem step_order (again : Bool) :
    step o t (order again) h =
      (match h.store.findOrder o with
        | .ok (some row) => trip again row
        | .ok none => done (.ok .orderNotFound)
        | .error e => done (.error (.store e)), h) := by
  simp only [step, next, run_bind, run_query]
  rcases h.store.findOrder o with e | _ | row <;> rfl

theorem step_trip (again : Bool) (row : OrderRow) :
    step o t (trip again row) h =
      (match h.store.findTrip t with
        | .ok (some tripRow) =>
          if row.tripId != (tripRow.id : Int) then done (.ok .tripMismatch)
          else if row.status == completedStatus then done (.ok .alreadyPickedUp)
          else if !tripRow.readyForPickup then done (.ok .notReady)
          else if again then count row else draw row
        | .ok none => done (.ok .tripNotFound)
        | .error e => done (.error (.store e)), h) := by
  simp only [step, next, run_bind, run_query]
  rcases h.store.findTrip t with e | _ | tripRow
  · rfl
  · rfl
  · dsimp only
    split_ifs <;> rfl

theorem step_count (row : OrderRow) :
    step o t (count row) h =
      (match h.store.countCreatedSince o t (h.now.add (-h.settings.resendWindow)).toStored with
        | .ok n =>
          if (n : Int) ≥ h.settings.resendLimit then done (.ok .rateLimited) else active row h.now
        | .error e => done (.error (.store e)), h) := by
  simp only [step, next, run_bind, run_get, run_query]
  rcases h.store.countCreatedSince o t (h.now.add (-h.settings.resendWindow)).toStored with e | n
  · rfl
  · dsimp only
    split_ifs <;> rfl

theorem step_active (row : OrderRow) (now : Instant) :
    step o t (active row now) h =
      (match h.store.latestActive o t now.toStored with
        | .ok none => draw row
        | .ok (some prev) => copy row prev now
        | .error e => done (.error (.store e)), h) := by
  simp only [step, next, run_bind, run_query]
  rcases h.store.latestActive o t now.toStored with e | _ | prev <;> rfl

theorem step_draw (row : OrderRow) :
    step o t (draw row) h =
      match h.codes with
      | c :: rest => (record row c, { h with codes := rest })
      | [] => (done (.error .codesExhausted), h) := by
  simp only [step, next, run_bind, run_nextCode]
  rcases h.codes with _ | ⟨c, rest⟩ <;> rfl

theorem step_record (row : OrderRow) (c : String) :
    step o t (record row c) h =
      if h.store.closed then (done (.error (.store ⟨"insert pickup otp"⟩)), h)
      else (mail o c row.email (h.now.add h.settings.codeTtl) .sent,
        { h with store := { h.store with codes := h.store.codes ++ [h.freshRow o t c row.email] } }) := by
  simp only [step, next, run_bind, run_get, run_insert]
  cases h.store.closed <;> rfl

theorem step_copy (row : OrderRow) (prev : CodeRow) (now : Instant) :
    step o t (copy row prev now) h =
      if h.store.closed then (done (.error (.store ⟨"insert pickup otp"⟩)), h)
      else (mail prev.orderCode prev.code row.email (Instant.ofStored prev.expiresAt) .resent,
        { h with store := { h.store with codes := h.store.codes ++
          [{ prev with email := row.email, createdAt := now.toStored, verified := false,
                       verifiedAt := none }] } }) := by
  simp only [step, next, run_bind, run_insert]
  cases h.store.closed <;> rfl

theorem step_mail (oc c email : String) (exp : Instant) (out : Outcome) :
    step o t (mail oc c email exp out) h =
      (match ((deliver oc c email exp).run.run h).1 with
        | .ok ok => done (.ok (if ok then out else .mailFailed))
        | .error e => done (.error e), ((deliver oc c email exp).run.run h).2) := by
  simp only [step, next, run_bind]
  rcases (deliver oc c email exp).run.run h with ⟨_ | ok, h'⟩ <;> rfl

theorem step_candidate (c : String) :
    step o t (candidate c) h =
      (match h.store.latestUnverified o t c with
        | .ok (some otp) =>
          if h.now.before (Instant.ofStored otp.expiresAt) then newest c otp h.now
          else done (.ok .expired)
        | .ok none => done (.ok .invalidCode)
        | .error e => done (.error (.store e)), h) := by
  simp only [step, next, run_bind, run_get, run_query]
  rcases h.store.latestUnverified o t c with e | _ | otp
  · rfl
  · rfl
  · dsimp only
    cases h.now.before (Instant.ofStored otp.expiresAt) <;> rfl

theorem step_newest (c : String) (otp : CodeRow) (now : Instant) :
    step o t (newest c otp now) h =
      (match h.store.latestActive o t now.toStored with
        | .ok (some latest) => if latest.code != c then done (.ok .invalidCode) else mark otp now
        | .ok none => mark otp now
        | .error e => done (.error (.store e)), h) := by
  simp only [step, next, run_bind, run_query]
  rcases h.store.latestActive o t now.toStored with e | _ | latest
  · rfl
  · rfl
  · dsimp only
    split_ifs <;> rfl

theorem step_mark (otp : CodeRow) (now : Instant) :
    step o t (mark otp now) h =
      if h.store.closed then (done (.error (.store ⟨"mark pickup otp verified"⟩)), h)
      else (if (h.store.codes.filter (Store.awaitsVerification o t otp.code)).length = 0 then
          done (.ok .invalidCode) else opening,
        { h with store := { h.store with
          codes := h.store.codes.map (Store.markRow o t otp.code now.toStored) } }) := by
  cases hs : h.store.closed
  · simp only [step, next, run_bind, run_update, Store.markVerified_of_open hs]
    split_ifs <;> simp_all
  · simp [step, next, Store.markVerified, Store.guard, hs, -ExceptT.run_bind]

theorem step_opening : step o t opening h = (done (.ok .verified), h.release o t) := by
  simp only [step, next, run_bind, run_get, Hub.release]
  rcases h.store.findTrip t with e | _ | tripRow
  · rfl
  · rfl
  · dsimp only
    cases tripRow.readyForPickup
    · rfl
    · simp only [↓reduceIte, run_bind, run_unlock, run_pure]

theorem step_opening_keeps :
    (step o t opening h).2.store = h.store ∧ (step o t opening h).2.codes = h.codes := by
  rw [step_opening, Hub.release_eq]
  exact ⟨rfl, rfl⟩

@[simp] theorem step_done (r : Except Fault Outcome) : step o t (done r) h = (done r, h) := rfl

end Steps

end Stage

/-- A pickup call on the pair that may run beside others. -/
inductive Call where
  | send
  | resend
  | verify (code : String)
  deriving DecidableEq

namespace Call

/-- The stage a call starts at. -/
def start : Call → Stage
  | send => .order false
  | resend => .order true
  | verify c => .candidate c

/-- The pickup operation a call runs. -/
def attempt (o t : String) : Call → Attempt Outcome
  | send => Attempt.send o t
  | resend => Attempt.resend o t
  | verify c => Attempt.verify o t c

end Call

/-! ## A call running alone

With nothing else running, the stages of a call chain the same store calls as the operation, so
the call ends with the operation's answer on the operation's hub. -/

namespace Stage

open Attempt

variable {o t : String} {h : Hub}

theorem steps_done (n : Nat) (r : Except Fault Outcome) : steps o t n (done r, h) = (done r, h) := by
  induction n with
  | zero => rfl
  | succ n ih => exact ih

theorem steps_succ (n : Nat) (s : Stage × Hub) :
    steps o t (n + 1) s = steps o t n (step o t s.1 s.2) := rfl

theorem steps_add (m n : Nat) (s : Stage × Hub) :
    steps o t (m + n) s = steps o t n (steps o t m s) := by
  induction m generalizing s with
  | zero => simp [steps]
  | succ m ih => rw [Nat.succ_add, steps_succ, steps_succ, ih]

theorem steps_eligible (again : Bool) :
    steps o t 2 (order again, h) =
      match ((eligible o t).run.run h).1 with
      | .ok (.ok (row, _)) => (if again then count row else draw row, h)
      | .ok (.error e) => (done (.ok e), h)
      | .error e => (done (.error e), h) := by
  rcases hfo : h.store.findOrder o with e | _ | row
  · simp [steps, step_order, hfo, Attempt.eligible, Attempt.lookup, -ExceptT.run_bind]
  · simp [steps, step_order, hfo, Attempt.eligible, Attempt.lookup, -ExceptT.run_bind]
  rcases hft : h.store.findTrip t with e | _ | tr
  · simp [steps, step_order, step_trip, hfo, hft, Attempt.eligible, Attempt.lookup, -ExceptT.run_bind]
  · simp [steps, step_order, step_trip, hfo, hft, Attempt.eligible, Attempt.lookup, -ExceptT.run_bind]
  · simp [steps, step_order, step_trip, hfo, hft, Attempt.eligible, Attempt.lookup, -ExceptT.run_bind]
    split_ifs <;> simp_all

theorem steps_issue (row : OrderRow) :
    steps o t 3 (draw row, h) = (done ((issue row o t).run.run h).1, ((issue row o t).run.run h).2) := by
  unfold issue
  rcases hc : h.codes with _ | ⟨c, rest⟩
  · simp [steps, step_draw, hc, run_nextCode, -ExceptT.run_bind]
  cases hs : h.store.closed
  · simp [steps, step_draw, step_record, step_mail, hc, hs, run_nextCode, run_insert, Hub.freshRow,
      -ExceptT.run_bind]
    -- what remains is the same delivery on both sides
    generalize StateT.run (ExceptT.run (deliver _ _ _ _)) _ = r
    obtain ⟨_ | ok, h'⟩ := r
    · exact ⟨rfl, rfl⟩
    · cases ok <;> exact ⟨rfl, rfl⟩
  · simp [steps, step_draw, step_record, hc, hs, run_nextCode, run_insert, -ExceptT.run_bind]

theorem steps_verify (c : String) :
    steps o t 4 (candidate c, h) = (done ((verify o t c).run.run h).1, ((verify o t c).run.run h).2) := by
  rcases hu : h.store.latestUnverified o t c with e | _ | otp
  · simp [steps, step_candidate, hu, Attempt.verify, -ExceptT.run_bind]
  · simp [steps, step_candidate, hu, Attempt.verify, -ExceptT.run_bind]
  have hs : h.store.closed = false := by
    cases hs : h.store.closed
    · rfl
    · simp [Store.latestUnverified, Store.guard, hs] at hu
  obtain ⟨hm, haw⟩ := Store.awaits_of_latestUnverified hu
  have hcode : otp.code = c := Store.code_of_awaits o t c otp haw
  cases hb : h.now.before (Instant.ofStored otp.expiresAt)
  · simp [steps, step_candidate, hu, hb, Attempt.verify, -ExceptT.run_bind]
  -- once no newer active code supersedes it, the code is accepted: the run marks, then releases
  have accept : (∀ l, h.store.latestActive o t h.now.toStored = .ok (some l) → l.code = c) →
      steps o t 4 (candidate c, h) =
        (done ((verify o t c).run.run h).1, ((verify o t c).run.run h).2) := by
    intro hnew
    have hmark : step o t (newest c otp h.now) h = (mark otp h.now, h) := by
      rw [step_newest]
      rcases hl : h.store.latestActive o t h.now.toStored with e | _ | l
      · simp [Store.latestActive, Store.guard, hs] at hl
      · rfl
      · simp [hnew l hl]
    have hlen : (h.store.codes.filter (Store.awaitsVerification o t c)).length ≠ 0 :=
      (List.length_pos_of_mem (List.mem_filter.2 ⟨hm, haw⟩)).ne'
    rw [Attempt.verify_of_accepts ⟨hs, hu, hb, hnew⟩]
    simp [steps, step_candidate, hu, hb, hmark, step_mark, hs, hcode, hlen, step_opening,
      Hub.consume]
  rcases hl : h.store.latestActive o t h.now.toStored with e | _ | latest
  · simp [Store.latestActive, Store.guard, hs] at hl
  · exact accept fun l hl' => by simp [hl] at hl'
  · by_cases hc : latest.code = c
    · exact accept fun l hl' => by simp_all
    · simp [steps, step_candidate, step_newest, hu, hb, hl, hc, Attempt.verify, -ExceptT.run_bind]

theorem steps_send :
    steps o t 5 (order false, h) = (done ((send o t).run.run h).1, ((send o t).run.run h).2) := by
  rw [show 5 = 2 + 3 from rfl, steps_add, steps_eligible]
  simp only [Attempt.send, run_bind]
  rcases he : (eligible o t).run.run h with ⟨_ | ⟨e | ⟨row, tr⟩⟩, h'⟩ <;>
    have hh : h' = h := (congrArg Prod.snd he).symm.trans (eligible_state o t h)
  all_goals subst h'
  · simp [steps_done]
  · simp [steps_done]
  · simpa using steps_issue row

theorem steps_resend :
    steps o t 7 (order true, h) = (done ((resend o t).run.run h).1, ((resend o t).run.run h).2) := by
  rw [show 7 = 2 + 5 from rfl, steps_add, steps_eligible]
  simp only [Attempt.resend, run_bind]
  rcases he : (eligible o t).run.run h with ⟨_ | ⟨e | ⟨row, tr⟩⟩, h'⟩ <;>
    have hh : h' = h := (congrArg Prod.snd he).symm.trans (eligible_state o t h)
  all_goals subst h'
  · simp [steps_done]
  · simp [steps_done]
  simp only [ite_true, run_get, run_bind, run_query]
  rcases hn : h.store.countCreatedSince o t (h.now.add (-h.settings.resendWindow)).toStored with
    e | n
  · simp [steps, step_count, hn]
  dsimp only
  by_cases hlim : (n : Int) ≥ h.settings.resendLimit
  · simp [steps, step_count, hn, hlim]
  have hs : h.store.closed = false := by
    cases hs : h.store.closed
    · rfl
    · simp [Store.countCreatedSince, Store.guard, hs] at hn
  rcases hl : h.store.latestActive o t h.now.toStored with e | _ | prev
  · simp [Store.latestActive, Store.guard, hs] at hl
  · -- no active code: the resend issues a fresh one, as a send does
    have h2 : steps o t 2 (count row, h) = (draw row, h) := by
      simp [steps, step_count, step_active, hn, hlim, hl]
    have hlim' : ¬ h.settings.resendLimit ≤ (n : Int) := hlim
    rw [show 5 = 2 + 3 from rfl, steps_add, h2, steps_issue]
    simp [hl, hlim', -ExceptT.run_bind]
  · -- the active row is copied, then mailed again
    simp [steps, step_count, step_active, step_copy, step_mail, hn, hlim, hl, hs, run_insert,
      -ExceptT.run_bind]
    generalize StateT.run (ExceptT.run (deliver _ _ _ _)) _ = r
    obtain ⟨_ | ok, h'⟩ := r
    · rfl
    · cases ok <;> rfl

end Stage

/-- Run alone, a call answers what its operation answers and leaves the hub the operation leaves:
seven steps take any call from its first stage to its answer. -/
theorem Call.run_alone (o t : String) (call : Call) (h : Hub) :
    Stage.steps o t 7 (call.start, h) =
      (.done ((call.attempt o t).run.run h).1, ((call.attempt o t).run.run h).2) := by
  cases call with
  | send =>
    rw [show 7 = 5 + 2 from rfl, Stage.steps_add]
    exact (congrArg (Stage.steps o t 2) Stage.steps_send).trans (Stage.steps_done 2 _)
  | resend => exact Stage.steps_resend
  | verify c =>
    rw [show 7 = 4 + 3 from rfl, Stage.steps_add]
    exact (congrArg (Stage.steps o t 3) (Stage.steps_verify c)).trans (Stage.steps_done 3 _)

/-- Whether a row of the pair carrying `c` awaits verification. -/
def Hub.awaiting (o t c : String) (h : Hub) : Bool :=
  h.store.codes.any (Store.awaitsVerification o t c)

/-- The hub with the calls in flight on it, each with the stage it stands at. -/
structure Interleaving where
  hub : Hub
  calls : List (Call × Stage)

namespace Interleaving

variable (o t : String)

/-- The calls of a list, none of them started, on a hub. -/
def start (h : Hub) (calls : List Call) : Interleaving :=
  ⟨h, calls.map fun c => (c, c.start)⟩

/-- Call `i` takes a step; a schedule naming no call changes nothing. -/
def step (k : Interleaving) (i : Nat) : Interleaving :=
  match k.calls[i]? with
  | some (c, p) => ⟨(Stage.step o t p k.hub).2, k.calls.set i (c, (Stage.step o t p k.hub).1)⟩
  | none => k

/-- Runs a schedule: the calls it names step, one at a time, in its order. -/
def run (k : Interleaving) : List Nat → Interleaving
  | [] => k
  | i :: rest => (k.step o t i).run rest

/-- How many verifications of `c` answered `verified`. -/
def accepted (c : String) (k : Interleaving) : Nat :=
  k.calls.countP fun x => x.1 == .verify c && x.2.verified

/-- Whether every resend copy of `c` the schedule writes lands while a row of the pair carrying `c`
still awaits verification. -/
def copiesLive (c : String) : Interleaving → List Nat → Bool
  | _, [] => true
  | k, i :: rest =>
    (match k.calls[i]? with
      | some (_, .copy _ prev _) =>
        prev.code != c || k.hub.awaiting o t c
      | _ => true) && copiesLive c (k.step o t i) rest

end Interleaving

/-! ## What the calls owe to the acceptances of a code -/

namespace Stage

/-- What a call at this stage owes to the acceptances of `c`: one if it is a verification of `c`
holding an accepted code, one if it is about to write a fresh row of `c`. -/
def owes (c : String) (call : Call) (p : Stage) : Nat :=
  (if call = .verify c ∧ p.granted then 1 else 0) + (if p.writes c then 1 else 0)

/-- The stages a verification of `c` passes through: the rows it has read carry `c`. -/
def OfVerify (c : String) : Stage → Prop
  | candidate c' => c' = c
  | newest _ otp _ => otp.code = c
  | mark otp _ => otp.code = c
  | opening | done _ => True
  | _ => False

section Owes

variable {o t c : String} {h : Hub}

theorem awaiting_markRow_self (stamp : Int) :
    ({ h with store := { h.store with
      codes := h.store.codes.map (Store.markRow o t c stamp) } } : Hub).awaiting o t c = false := by
  simp [Hub.awaiting, List.any_map, Function.comp_def, Store.awaits_markRow_self]

theorem awaiting_markRow_le (c' : String) (stamp : Int) :
    (({ h with store := { h.store with codes := h.store.codes.map (Store.markRow o t c' stamp) } } :
      Hub).awaiting o t c).toNat ≤ (h.awaiting o t c).toNat := by
  cases ha : ({ h with store := { h.store with
      codes := h.store.codes.map (Store.markRow o t c' stamp) } } : Hub).awaiting o t c
  · simp
  · simp only [Hub.awaiting, List.any_map, List.any_eq_true, Function.comp_apply] at ha
    obtain ⟨r, hr, hra⟩ := ha
    have hh : h.awaiting o t c = true :=
      List.any_eq_true.2 ⟨r, hr, Store.awaits_of_awaits_markRow o t c stamp r hra⟩
    simp [hh]

theorem awaiting_append (r : CodeRow) :
    ({ h with store := { h.store with codes := h.store.codes ++ [r] } } : Hub).awaiting o t c =
      (h.awaiting o t c || Store.awaitsVerification o t c r) := by
  simp [Hub.awaiting, List.any_append]

/-- The marking step: a verification of `c` that marks some row moves the unit owed for the
awaiting rows of `c` to itself, and marking the rows of another code only lowers the rest. -/
theorem owes_mark (call : Call) (otp : CodeRow) (now : Instant)
    (hshape : call = .verify c → otp.code = c) :
    (step o t (mark otp now) h).1.owes c call + ((step o t (mark otp now) h).2.awaiting o t c).toNat +
        (step o t (mark otp now) h).2.codes.count c ≤
      (mark otp now).owes c call + (h.awaiting o t c).toNat + h.codes.count c := by
  rw [step_mark]
  split
  · simp [owes, granted, writes]
  by_cases hcall : call = .verify c
  · have hotp : otp.code = c := hshape hcall
    rw [hotp, awaiting_markRow_self]
    split_ifs with hn
    · simp [owes, granted, writes]
    · -- some row of `c` was marked, so one awaited verification before the step
      have ha : h.awaiting o t c = true := by
        simpa [Hub.awaiting, List.filter_eq_nil_iff, hotp] using hn
      simp [owes, granted, writes, hcall, ha]
  · have hle := awaiting_markRow_le (h := h) (o := o) (t := t) (c := c) otp.code now.toStored
    split_ifs <;> simp [owes, granted, writes, hcall] <;> omega

/-- A step of one call never raises what it owes to the acceptances of `c` together with the
awaiting rows and the `c` still to be handed out, provided a copy of `c` lands only while a row of
`c` awaits verification: a draw of `c` moves one unit from the codes to the call, writing the fresh
row moves it to the rows, and a marking that accepts `c` moves it from the rows to the
verification. -/
theorem owes_step (call : Call) (p : Stage) (hshape : ∀ c', call = .verify c' → p.OfVerify c')
    (hcopy : ∀ row prev now, p = copy row prev now → prev.code = c → h.awaiting o t c = true) :
    (step o t p h).1.owes c call + ((step o t p h).2.awaiting o t c).toNat +
        (step o t p h).2.codes.count c ≤
      p.owes c call + (h.awaiting o t c).toNat + h.codes.count c := by
  cases p with
  | order again =>
    rw [step_order]
    split <;> simp [owes, granted, writes]
  | trip again row =>
    rw [step_trip]
    split
    · split_ifs <;> simp [owes, granted, writes]
    all_goals simp [owes, granted, writes]
  | count row =>
    rw [step_count]
    split
    · split_ifs <;> simp [owes, granted, writes]
    · simp [owes, granted, writes]
  | active row now =>
    rw [step_active]
    split <;> simp [owes, granted, writes]
  | draw row =>
    rw [step_draw]
    rcases hcodes : h.codes with _ | ⟨c₀, rest⟩
    · simp [owes, granted, writes, hcodes]
    · -- the drawn code moves from the codes still to hand out to the call about to write it
      simp [owes, granted, writes, List.count_cons, Hub.awaiting]
      omega
  | record row c₀ =>
    rw [step_record]
    split
    · simp [owes, granted, writes]
    · -- the fresh row awaits `c` exactly when the call owed it
      rw [awaiting_append]
      cases h.awaiting o t c <;> by_cases hc : c₀ = c <;>
        simp [owes, granted, writes, Hub.freshRow, Store.awaitsVerification, hc]
  | copy row prev now =>
    rw [step_copy]
    split
    · simp [owes, granted, writes]
    · rw [awaiting_append]
      by_cases hc : prev.code = c
      · simp [owes, granted, writes, hcopy row prev now rfl hc]
      · have hne : (prev.code == c) = false := by simpa using hc
        simp [owes, granted, writes, Store.awaitsVerification, hne]
  | mail oc c' email exp out =>
    have hd := Attempt.deliver_preserves oc c' email exp h
    simp only [Prod.mk.injEq] at hd
    by_cases hcall : call = .verify c
    · exact (hshape c hcall).elim
    · rw [step_mail]
      split <;> simp [owes, granted, writes, hcall, Hub.awaiting, hd.1, hd.2.1]
  | candidate c' =>
    rw [step_candidate]
    split
    · split_ifs <;> simp [owes, granted, writes]
    all_goals simp [owes, granted, writes]
  | newest c' otp now =>
    rw [step_newest]
    split
    · split_ifs <;> simp [owes, granted, writes]
    all_goals simp [owes, granted, writes]
  | mark otp now => exact owes_mark call otp now (hshape c)
  | opening =>
    obtain ⟨hs, hc⟩ := step_opening_keeps (o := o) (t := t) (h := h)
    have hq : (step o t opening h).1 = done (.ok .verified) := by rw [step_opening]
    rw [hq, Hub.awaiting, Hub.awaiting, hs, hc]
    simp [owes, granted, writes]
  | done r => simp

theorem ofVerify_step {p : Stage} (hp : p.OfVerify c) : (step o t p h).1.OfVerify c := by
  cases p with
  | candidate c' =>
    -- the candidate row answers a query for rows carrying `c`
    subst hp
    rw [step_candidate]
    split
    · rename_i otp hu
      split_ifs
      · exact Store.code_of_awaits o t c' otp (Store.awaits_of_latestUnverified hu).2
      · simp [OfVerify]
    all_goals simp [OfVerify]
  | newest c' otp now =>
    rw [step_newest]
    split
    · split_ifs
      · simp [OfVerify]
      · exact hp
    · exact hp
    · simp [OfVerify]
  | mark otp now =>
    rw [step_mark]
    split
    · simp [OfVerify]
    · split_ifs <;> simp [OfVerify]
  | opening => simp [step_opening, OfVerify]
  | done r => simpa using hp
  | _ => exact hp.elim

end Owes

end Stage

theorem sum_map_set {α : Type} (f : α → Nat) {l : List α} {i : Nat} {a : α} (hi : l[i]? = some a)
    (b : α) : ((l.set i b).map f).sum + f a = (l.map f).sum + f b := by
  induction l generalizing i with
  | nil => simp at hi
  | cons x l ih =>
    cases i with
    | zero =>
      simp only [List.getElem?_cons_zero, Option.some.injEq] at hi
      subst hi
      simp only [List.set_cons_zero, List.map_cons, List.sum_cons]
      omega
    | succ i =>
      simp only [List.getElem?_cons_succ] at hi
      simp only [List.set_cons_succ, List.map_cons, List.sum_cons]
      have := ih hi
      omega

namespace Interleaving

variable {o t c : String}

/-- Every verification in flight stands at one of its own stages. -/
def Staged (k : Interleaving) : Prop :=
  ∀ call p, (call, p) ∈ k.calls → ∀ c, call = .verify c → p.OfVerify c

/-- What the calls of an interleaving owe to the acceptances of `c`, with one for an awaiting row of
`c` and one for each `c` still to be handed out. -/
def owed (o t c : String) (k : Interleaving) : Nat :=
  (k.calls.map fun x => x.2.owes c x.1).sum + (k.hub.awaiting o t c).toNat +
    k.hub.codes.count c

theorem staged_step {k : Interleaving} (hk : k.Staged) (i : Nat) : (k.step o t i).Staged := by
  unfold step
  split
  · rename_i call p hi
    intro call' p' hmem c' hc
    rcases List.mem_or_eq_of_mem_set hmem with hold | hnew
    · exact hk _ _ hold c' hc
    · cases hnew
      exact Stage.ofVerify_step (hk call p (List.mem_of_getElem? hi) c' hc)
  · exact hk

/-- One step of the interleaving never raises what is owed to the acceptances of `c`, unless it
writes a copy of `c` while no row of `c` awaits verification. -/
theorem owed_step {k : Interleaving} (hk : k.Staged) (i : Nat)
    (hcopy : ∀ call row prev now, k.calls[i]? = some (call, .copy row prev now) → prev.code = c →
      k.hub.awaiting o t c = true) :
    owed o t c (k.step o t i) ≤ owed o t c k := by
  unfold step
  split
  · rename_i call p hi
    have hs := sum_map_set (fun (x : Call × Stage) => x.2.owes c x.1) hi
      (call, (Stage.step o t p k.hub).1)
    have hp := Stage.owes_step (o := o) (t := t) (c := c) (h := k.hub) call p
      (hk call p (List.mem_of_getElem? hi))
      (fun row prev now hp hc => hcopy call row prev now (hp ▸ hi) hc)
    simp only [owed] at hs ⊢
    omega
  · exact le_rfl

theorem owed_run {k : Interleaving} (hk : k.Staged) (sched : List Nat)
    (hlive : k.copiesLive o t c sched = true) :
    owed o t c (k.run o t sched) ≤ owed o t c k := by
  induction sched generalizing k with
  | nil => exact le_rfl
  | cons i rest ih =>
    simp only [copiesLive, Bool.and_eq_true] at hlive
    have hstep : owed o t c (k.step o t i) ≤ owed o t c k := by
      refine owed_step hk i fun call row prev now hi hc => ?_
      simpa [hi, hc] using hlive.1
    exact (ih (staged_step hk i) hlive.2).trans hstep

theorem accepted_le (k : Interleaving) :
    k.accepted c ≤ (k.calls.map fun x => x.2.owes c x.1).sum := by
  unfold accepted
  induction k.calls with
  | nil => simp
  | cons x l ih =>
    -- a call counted as accepted is a verification of `c` holding an accepted code
    have hx : (if (x.1 == .verify c && x.2.verified) = true then 1 else 0) ≤ x.2.owes c x.1 := by
      split_ifs with hv
      · simp only [Bool.and_eq_true, beq_iff_eq] at hv
        simp [Stage.owes, hv.1, Stage.granted_of_verified hv.2]
      · exact Nat.zero_le _
    simp only [List.countP_cons, List.map_cons, List.sum_cons]
    omega

theorem staged_start (h : Hub) (calls : List Call) : (start h calls).Staged := by
  intro call p hmem c' hc
  simp only [start, List.mem_map] at hmem
  obtain ⟨call', -, hcall⟩ := hmem
  cases hcall
  subst hc
  simp [Call.start, Stage.OfVerify]

theorem owed_start (h : Hub) (calls : List Call) :
    owed o t c (start h calls) = (h.awaiting o t c).toNat + h.codes.count c := by
  have hzero : ∀ call : Call, call.start.owes c call = 0 := by
    intro call
    cases call <;> simp [Call.start, Stage.owes, Stage.granted, Stage.writes]
  simp [owed, start, Function.comp_def, hzero]

/-- Whenever every resend copy of `c` lands while a row of the pair carrying `c` still awaits
verification, the verifications of `c` that answer `verified`, together with the `c` the generator
still holds, are at most the `c` it held at the start, plus one if a row of `c` already awaited
verification: each fresh issue of `c` is accepted at most once, under every interleaving of the
calls' steps. -/
theorem accepted_at_most_once_per_issue (h : Hub) (calls : List Call) (sched : List Nat)
    (hlive : (start h calls).copiesLive o t c sched = true) :
    ((start h calls).run o t sched).accepted c + ((start h calls).run o t sched).hub.codes.count c ≤
      (h.awaiting o t c).toNat + h.codes.count c := by
  have hrun := owed_run (staged_start h calls) sched hlive
  have hacc := accepted_le (c := c) ((start h calls).run o t sched)
  rw [owed_start] at hrun
  simp only [owed] at hrun
  omega

/-- A send, a resend and two verifications of the sent code, where the resend writes its copy
before the first verification marks the rows: the copy is marked with the row it copies, and the
second verification finds nothing left to accept. -/
theorem accepted_once_when_copy_lands_first :
    (start (Hub.pickupDemo (Instant.ofCivil 2024 1 1 0 0 0 0) ["111111"])
        [.send, .resend, .verify "111111", .verify "111111"]).copiesLive "O1" "T1" "111111"
        [0, 0, 0, 0, 0, 1, 1, 1, 1, 2, 2, 1, 1, 2, 2, 3, 3, 3, 3] = true ∧
      ((start (Hub.pickupDemo (Instant.ofCivil 2024 1 1 0 0 0 0) ["111111"])
          [.send, .resend, .verify "111111", .verify "111111"]).run "O1" "T1"
          [0, 0, 0, 0, 0, 1, 1, 1, 1, 2, 2, 1, 1, 2, 2, 3, 3, 3, 3]).accepted "111111" +
        ((start (Hub.pickupDemo (Instant.ofCivil 2024 1 1 0 0 0 0) ["111111"])
          [.send, .resend, .verify "111111", .verify "111111"]).run "O1" "T1"
          [0, 0, 0, 0, 0, 1, 1, 1, 1, 2, 2, 1, 1, 2, 2, 3, 3, 3, 3]).hub.codes.count "111111" ≤
      ((Hub.pickupDemo (Instant.ofCivil 2024 1 1 0 0 0 0) ["111111"]).awaiting "O1" "T1"
          "111111").toNat +
        (Hub.pickupDemo (Instant.ofCivil 2024 1 1 0 0 0 0) ["111111"]).codes.count "111111" :=
  ⟨by decide, accepted_at_most_once_per_issue _ _ _ (by decide)⟩

/-- The race: after a send of `111111`, a resend reads the active row, a verification of `111111`
marks it and answers `verified`, the resend writes its copy, and a second verification accepts the
copy. One code drawn, none awaiting at the start, two acceptances. -/
theorem accepted_twice_after_stale_copy :
    (start (Hub.pickupDemo (Instant.ofCivil 2024 1 1 0 0 0 0) ["111111"])
        [.send, .resend, .verify "111111", .verify "111111"]).copiesLive "O1" "T1" "111111"
        [0, 0, 0, 0, 0, 1, 1, 1, 1, 2, 2, 2, 2, 1, 1, 3, 3, 3, 3] = false ∧
      ((Hub.pickupDemo (Instant.ofCivil 2024 1 1 0 0 0 0) ["111111"]).awaiting "O1" "T1"
          "111111").toNat +
        (Hub.pickupDemo (Instant.ofCivil 2024 1 1 0 0 0 0) ["111111"]).codes.count "111111" <
      ((start (Hub.pickupDemo (Instant.ofCivil 2024 1 1 0 0 0 0) ["111111"])
          [.send, .resend, .verify "111111", .verify "111111"]).run "O1" "T1"
          [0, 0, 0, 0, 0, 1, 1, 1, 1, 2, 2, 2, 2, 1, 1, 3, 3, 3, 3]).accepted "111111" +
        ((start (Hub.pickupDemo (Instant.ofCivil 2024 1 1 0 0 0 0) ["111111"])
          [.send, .resend, .verify "111111", .verify "111111"]).run "O1" "T1"
          [0, 0, 0, 0, 0, 1, 1, 1, 1, 2, 2, 2, 2, 1, 1, 3, 3, 3, 3]).hub.codes.count "111111" :=
  ⟨by decide, by decide⟩

end Interleaving

end DeliveryFleet
