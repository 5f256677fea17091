import DeliveryFleet.Proofs.Pickup.Completion

/-!
# Deliveries of a code

What a send or a resend leaves, told by its answer (`Hub.Delivery`): the orders and the trips stay;
an answer that a code went out (`OTP_SENT`, `OTP_RESENT`, `EMAIL_SEND_FAILED`) comes with exactly
one new code row and at most one letter; any other answer comes with neither, except that a mailer
that breaks down after the row was written (`Hub.mailCrashes`) leaves that row behind and the
operation answers `SERVER_ERROR`. This holds for every hub, whatever codes are left to hand out and
however the mailer behaves (`Hub.delivery_send_resend`); the breakdown is a real case
(`Hub.send_keeps_row_after_mail_crash`).

The proof follows the calls: a delivery goes out, does not, or breaks down (`Attempt.Mailed`,
`Attempt.mailed_deliver`); an issue draws a code, writes its row and mails it
(`Attempt.issue_cases`); a send refuses the pair or issues (`Attempt.send_cases`), and a resend
refuses, issues, or copies the active row (`Attempt.resend_cases`).
-/

namespace DeliveryFleet

/-- Whether an answer says that a code went out to the receiver, mailed or not. -/
def Outcome.delivered : Outcome → Bool
  | .sent | .resent | .mailFailed => true
  | _ => false

namespace Hub

/-- Whether mailing `e` breaks the mailer down: a mailer is set up, the address is not empty, and
the mailer breaks down on every mail or on mail to `e`. -/
def mailCrashes (h : Hub) (e : String) : Bool :=
  !(h.settings.mailer == .absent || e.isEmpty) &&
    (h.settings.mailer == .crashing || h.settings.mailPanicFor.contains e)

/-- The hub with one more code row. -/
def appendRow (h : Hub) (r : CodeRow) : Hub :=
  { h with store := { h.store with codes := h.store.codes ++ [r] } }

/-- The hub with one more letter accepted. -/
def addLetter (h : Hub) (l : Letter) : Hub :=
  { h with outbox := { h.outbox with letters := h.outbox.letters ++ [l] } }

variable (h : Hub)

@[simp] theorem appendRow_codes (r : CodeRow) : (h.appendRow r).store.codes = h.store.codes ++ [r] :=
  rfl
@[simp] theorem appendRow_letters (r : CodeRow) : (h.appendRow r).outbox.letters = h.outbox.letters :=
  rfl
@[simp] theorem appendRow_pairRows (r : CodeRow) : (h.appendRow r).pairRows = h.pairRows := rfl
@[simp] theorem appendRow_settings (r : CodeRow) : (h.appendRow r).settings = h.settings := rfl
@[simp] theorem addLetter_store (l : Letter) : (h.addLetter l).store = h.store := rfl
@[simp] theorem addLetter_codes (l : Letter) : (h.addLetter l).codes = h.codes := rfl
@[simp] theorem addLetter_now (l : Letter) : (h.addLetter l).now = h.now := rfl
@[simp] theorem addLetter_letters (l : Letter) :
    (h.addLetter l).outbox.letters = h.outbox.letters ++ [l] := rfl
@[simp] theorem countPickup_pairRows (op s : String) : (h.countPickup op s).pairRows = h.pairRows :=
  rfl

end Hub

namespace Attempt

variable {α : Type} {h : Hub} {o t : String}

/-! ## Mailing -/

/-- What mailing `e` can leave, for an attempt that answers `yes` once the mailer accepts the mail
and `no` when no mail went out: the hub as it was, the hub with one more letter, or, when the mailer
breaks down, the hub as it was and a break-off. -/
inductive Mailed (h : Hub) (e : String) (yes no : α) : Except Fault α × Hub → Prop
  | unsent : Mailed h e yes no (.ok no, h)
  | accepted (l : Letter) : Mailed h e yes no (.ok yes, h.addLetter l)
  | crashed : h.mailCrashes e = true → Mailed h e yes no (.error .mailCrash, h)

theorem mailed_deliver (oc c e : String) (x : Instant) (h : Hub) :
    Mailed h e true false ((deliver oc c e x).run.run h) := by
  unfold deliver
  simp only [run_bind, run_get]
  split
  · exact .unsent
  · rename_i hmail
    simp only [Hub.sendMail]
    split
    · rename_i hcrash
      exact .crashed (by simp only [Hub.mailCrashes, hcrash, Bool.and_true]; simpa using hmail)
    · split
      · exact .unsent
      · exact .accepted _

/-- Answering by what the mail did keeps what mailing left. -/
theorem Mailed.ite {x : Attempt Bool} {e : String} (hx : Mailed h e true false (x.run.run h))
    (yes no : α) :
    Mailed h e yes no ((x >>= fun b => if b then pure yes else pure no).run.run h) := by
  rw [run_bind]
  generalize x.run.run h = r at hx ⊢
  cases hx with
  | unsent => exact .unsent
  | accepted l => exact .accepted l
  | crashed hc => exact .crashed hc

/-- Mailing keeps the hub or adds one letter to it. -/
theorem Mailed.hub {e : String} {yes no : α} {r : Except Fault α × Hub} (hm : Mailed h e yes no r) :
    r.2 = h ∨ ∃ l, r.2 = h.addLetter l := by
  cases hm with
  | unsent => exact .inl rfl
  | accepted l => exact .inr ⟨l, rfl⟩
  | crashed _ => exact .inl rfl

/-! ## Issuing and refusing -/

/-- An issue on an open store finds no code left and breaks off, or draws the next code `c`, writes
its fresh row and mails it, answering `sent` once the mailer accepts and `mailFailed` when no mail
went out. -/
theorem issue_cases (order : OrderRow) (o t : String) (hopen : h.store.closed = false) :
    (h.codes = [] ∧ (issue order o t).run.run h = (.error .codesExhausted, h)) ∨
    ∃ c rest, h.codes = c :: rest ∧
      Mailed ({ h with codes := rest }.appendRow (h.freshRow o t c order.email)) order.email
        .sent .mailFailed ((issue order o t).run.run h) := by
  unfold issue
  rw [run_bind, run_nextCode]
  rcases hc : h.codes with _ | ⟨c, rest⟩
  · exact .inl ⟨rfl, rfl⟩
  · refine .inr ⟨c, rest, rfl, ?_⟩
    dsimp only
    rw [run_bind, run_get]
    dsimp only
    rw [run_bind, run_insert, if_neg (by simp [hopen])]
    dsimp only
    exact Mailed.ite (mailed_deliver _ _ _ _ _) _ _

/-- A lookup reads the hub and leaves it as it was. -/
theorem lookup_keeps (o t : String) (h : Hub) : ∃ r, (lookup o t).run.run h = (r, h) :=
  ⟨_, Prod.ext rfl (lookup_state o t h)⟩

/-- An eligibility check reads the hub and leaves it as it was. -/
theorem eligible_keeps (o t : String) (h : Hub) : ∃ r, (eligible o t).run.run h = (r, h) :=
  ⟨_, Prod.ext rfl (eligible_state o t h)⟩

/-- A lookup that answers without a pair refuses it: the order or the trip is missing, or they do
not belong together. -/
theorem lookup_refusal {e : Outcome} (hl : ((lookup o t).run.run h).1 = .ok (.error e)) :
    e = .orderNotFound ∨ e = .tripNotFound ∨ e = .tripMismatch := by
  -- the lookup refuses at the order, then at the trip, then at their check; a store error is
  -- no answer at all
  rcases hfo : h.store.findOrder o with _ | _ | order
  · simp [lookup, hfo, -ExceptT.run_bind] at hl
  · simp [lookup, hfo, -ExceptT.run_bind] at hl
    exact .inl hl.symm
  rcases hft : h.store.findTrip t with _ | _ | trip
  · simp [lookup, hfo, hft, -ExceptT.run_bind] at hl
  · simp [lookup, hfo, hft, -ExceptT.run_bind] at hl
    exact .inr (.inl hl.symm)
  · simp [lookup, hfo, hft, -ExceptT.run_bind] at hl
    split at hl
    · simp at hl
    · simp at hl
      exact .inr (.inr hl.symm)

/-- An eligibility check that answers without a pair refuses it: the lookup refused it, the order
is completed, or the trip is not ready for pickup. -/
theorem eligible_refusal {e : Outcome} (hl : ((eligible o t).run.run h).1 = .ok (.error e)) :
    e = .orderNotFound ∨ e = .tripNotFound ∨ e = .tripMismatch ∨ e = .alreadyPickedUp ∨
      e = .notReady := by
  obtain ⟨r, hrun⟩ := lookup_keeps o t h
  rcases r with f | e' | ⟨order, trip⟩
  · simp [eligible, hrun, -ExceptT.run_bind] at hl
  · simp [eligible, hrun, -ExceptT.run_bind] at hl
    subst hl
    rcases lookup_refusal (by rw [hrun]) with rfl | rfl | rfl <;> simp
  · -- the lookup found the pair: a completed order or a trip not ready is refused
    by_cases hc : order.status = completedStatus <;> by_cases hr : trip.readyForPickup = true <;>
      simp [eligible, hrun, hc, hr, -ExceptT.run_bind] at hl <;> simp [← hl]

/-- An eligibility check that finds the pair found it on an open store. -/
theorem open_of_eligible {order : OrderRow} {trip : TripRow}
    (hl : ((eligible o t).run.run h).1 = .ok (.ok (order, trip))) : h.store.closed = false := by
  obtain ⟨r, hrun⟩ := lookup_keeps o t h
  rcases r with f | e' | ⟨order', trip'⟩
  · simp [eligible, hrun, -ExceptT.run_bind] at hl
  · simp [eligible, hrun, -ExceptT.run_bind] at hl
  · obtain ⟨hfo, -⟩ := found_of_run_lookup (o := o) (t := t) (h := h) (by rw [hrun])
    exact (Store.findOrder_eq_some.1 hfo).1

/-- What a refusal or a break-off leaves: the hub as it was, and no answer that a code went out. -/
def Refused (r : Except Fault Outcome × Hub) (h : Hub) : Prop :=
  r.2 = h ∧ ∀ out, r.1 = .ok out → out.delivered = false

/-- A send refuses the pair or breaks off, leaving the hub as it was, or issues a code for the
order it found on the open store. -/
theorem send_cases (o t : String) (h : Hub) :
    Refused ((send o t).run.run h) h ∨
    ∃ order, h.store.closed = false ∧ (send o t).run.run h = (issue order o t).run.run h := by
  obtain ⟨r, hrun⟩ := eligible_keeps o t h
  unfold send
  rw [run_bind, hrun]
  rcases r with f | e | ⟨order, trip⟩
  · exact .inl ⟨rfl, fun _ h => by cases h⟩
  · refine .inl ⟨rfl, fun out hout => ?_⟩
    cases hout
    rcases eligible_refusal (by rw [hrun]) with rfl | rfl | rfl | rfl | rfl <;> rfl
  · exact .inr ⟨order, open_of_eligible (by rw [hrun]), rfl⟩

/-- A resend refuses the pair, meets the resend limit or breaks off, leaving the hub as it was;
issues a code as a send does, when no code of the pair is active; or copies the pair's newest
active row, delivered now, and mails its code. -/
theorem resend_cases (o t : String) (h : Hub) :
    Refused ((resend o t).run.run h) h ∨
    (∃ order, h.store.closed = false ∧ (resend o t).run.run h = (issue order o t).run.run h) ∨
    ∃ (order : OrderRow) (prev : CodeRow), h.store.closed = false ∧
      h.store.latestActive o t h.now.toStored = .ok (some prev) ∧
      Mailed (h.appendRow (h.copyRow prev order.email)) order.email .resent .mailFailed
        ((resend o t).run.run h) := by
  obtain ⟨r, hrun⟩ := eligible_keeps o t h
  unfold resend
  rw [run_bind, hrun]
  rcases r with f | e | ⟨order, trip⟩
  · exact .inl ⟨rfl, fun _ h => by cases h⟩
  · refine .inl ⟨rfl, fun out hout => ?_⟩
    cases hout
    rcases eligible_refusal (by rw [hrun]) with rfl | rfl | rfl | rfl | rfl <;> rfl
  have hopen := open_of_eligible (by rw [hrun])
  dsimp only
  rw [run_bind, run_get]
  dsimp only
  rw [run_bind, run_query, Store.countCreatedSince_of_open hopen]
  dsimp only
  split
  · exact .inl ⟨rfl, fun out hout => by cases hout; rfl⟩
  rw [run_bind, run_query, Store.latestActive_of_open hopen]
  cases hl : newest? ((h.store.codesOf o t).filter fun r =>
      !r.verified && decide (h.now.toStored < r.expiresAt)) with
  | none => exact .inr (.inl ⟨order, hopen, rfl⟩)
  | some prev =>
    refine .inr (.inr ⟨order, prev, hopen, rfl, ?_⟩)
    dsimp only
    rw [run_bind, run_insert, if_neg (by simp [hopen])]
    dsimp only
    exact Mailed.ite (mailed_deliver _ _ _ _ _) _ _

end Attempt

namespace Hub

variable {h h' : Hub} {out : Outcome} {o t : String}

/-! ## What a send or a resend leaves -/

/-- What a send or a resend may leave, told by its answer `out`: the orders and the trips stay,
and

* an answer that no code went out comes with no new code row and no letter (`quiet`);
* an answer that a code went out comes with exactly one new code row and at most one letter
  (`wrote`);
* a mailer that breaks down on the receiver leaves the one row written before it and sends no
  letter, and the operation answers `serverError` (`crashed`). -/
inductive Delivery (h : Hub) : Outcome → Hub → Prop
  | quiet {out : Outcome} {h' : Hub} : out.delivered = false → h'.store.codes = h.store.codes →
      h'.outbox.letters = h.outbox.letters → h'.pairRows = h.pairRows → Delivery h out h'
  | wrote {out : Outcome} {h' : Hub} (r : CodeRow) : out.delivered = true →
      h'.store.codes = h.store.codes ++ [r] →
      (h'.outbox.letters = h.outbox.letters ∨ ∃ l, h'.outbox.letters = h.outbox.letters ++ [l]) →
      h'.pairRows = h.pairRows → Delivery h out h'
  | crashed {h' : Hub} (r : CodeRow) : h.mailCrashes r.email = true →
      h'.store.codes = h.store.codes ++ [r] →
      h'.outbox.letters = h.outbox.letters → h'.pairRows = h.pairRows → Delivery h .serverError h'

/-- Counting the answer changes nothing a delivery is about. -/
theorem Delivery.countPickup (hd : h.Delivery out h') (op s : String) :
    h.Delivery out (h'.countPickup op s) := by
  cases hd with
  | quiet hout hc hl hp => exact .quiet hout hc hl hp
  | wrote r hout hc hl hp => exact .wrote r hout hc hl hp
  | crashed r hm hc hl hp => exact .crashed r hm hc hl hp

theorem mailCrashes_of_settings (hs : h'.settings = h.settings) (e : String) :
    h'.mailCrashes e = h.mailCrashes e := by
  simp only [mailCrashes, hs]

/-- An operation whose attempt refuses or breaks off leaves a quiet delivery. -/
theorem delivery_of_refused {a : Attempt Outcome} (hr : Attempt.Refused (a.run.run h) h)
    (op : String) : h.Delivery (h.runPickup op a).1 (h.runPickup op a).2 := by
  obtain ⟨hh, hout⟩ := hr
  rw [runPickup_eq]
  rcases hres : a.run.run h with ⟨f | out, h₁⟩
  · rw [hres] at hh
    subst hh
    exact (Delivery.quiet rfl rfl rfl rfl).countPickup _ _
  · rw [hres] at hh hout
    subst hh
    exact (Delivery.quiet (hout out rfl) rfl rfl rfl).countPickup _ _

/-- An operation whose attempt writes the row `r` to the hub and then mails its receiver leaves a
delivery of that row, when both of its answers say that the code went out. -/
theorem delivery_of_mailed {a : Attempt Outcome} {h₁ : Hub} {e : String} {yes no : Outcome}
    (hm : Attempt.Mailed h₁ e yes no (a.run.run h)) {r : CodeRow}
    (hcodes : h₁.store.codes = h.store.codes ++ [r]) (he : r.email = e)
    (hletters : h₁.outbox.letters = h.outbox.letters) (hpair : h₁.pairRows = h.pairRows)
    (hs : h₁.settings = h.settings) (hyes : yes.delivered = true) (hno : no.delivered = true)
    (op : String) : h.Delivery (h.runPickup op a).1 (h.runPickup op a).2 := by
  rw [runPickup_eq]
  generalize a.run.run h = res at hm ⊢
  cases hm with
  | unsent => exact (Delivery.wrote r hno hcodes (.inl hletters) hpair).countPickup _ _
  | accepted l =>
    have hd : h.Delivery yes (h₁.addLetter l) :=
      .wrote r hyes hcodes (.inr ⟨l, by simp [hletters]⟩) hpair
    exact hd.countPickup _ _
  | crashed hc =>
    rw [mailCrashes_of_settings hs, ← he] at hc
    exact (Delivery.crashed r hc hcodes hletters hpair).countPickup _ _

theorem delivery_issue {order : OrderRow} {op : String} {a : Attempt Outcome}
    (hopen : h.store.closed = false) (hrun : a.run.run h = (Attempt.issue order o t).run.run h) :
    h.Delivery (h.runPickup op a).1 (h.runPickup op a).2 := by
  rcases Attempt.issue_cases order o t hopen with ⟨-, hi⟩ | ⟨c, rest, -, hm⟩
  · exact delivery_of_refused (by rw [hrun, hi]; exact ⟨rfl, fun _ h => by cases h⟩) op
  · rw [← hrun] at hm
    exact delivery_of_mailed hm rfl rfl rfl rfl rfl rfl rfl op

theorem delivery_send (h : Hub) (o t : String) : h.Delivery (h.send o t).1 (h.send o t).2 := by
  rcases Attempt.send_cases o t h with hr | ⟨order, hopen, hrun⟩
  · exact delivery_of_refused hr _
  · exact delivery_issue hopen hrun

theorem delivery_resend (h : Hub) (o t : String) :
    h.Delivery (h.resend o t).1 (h.resend o t).2 := by
  rcases Attempt.resend_cases o t h with hr | ⟨order, hopen, hrun⟩ | ⟨order, prev, -, -, hm⟩
  · exact delivery_of_refused hr _
  · exact delivery_issue hopen hrun
  · exact delivery_of_mailed hm rfl rfl rfl rfl rfl rfl rfl _

/-- A send and a resend tie what they write to what they answer, in every hub, whatever codes
are left to hand out and however the mailer behaves: neither touches an order or a trip; an
answer that the code went out (`sent`, `resent`, `mailFailed`) comes with exactly one new code
row and at most one letter; any other answer comes with no letter and no new row, except that a
mailer breaking down on the receiver leaves the row written before it, with `serverError`. -/
theorem delivery_send_resend (h : Hub) (o t : String) :
    h.Delivery (h.send o t).1 (h.send o t).2 ∧ h.Delivery (h.resend o t).1 (h.resend o t).2 :=
  ⟨delivery_send h o t, delivery_resend h o t⟩

/-- With a mailer that breaks down, a send writes the fresh row, mails nothing and answers
`serverError`: the row stays behind. -/
theorem send_keeps_row_after_mail_crash :
    let h₀ := pickupDemo (Instant.ofCivil 2024 1 1 0 0 0 0) ["111111"]
    let h := { h₀ with settings := { h₀.settings with mailer := .crashing } }
    (h.send "O1" "T1").1 = .serverError ∧
      (h.send "O1" "T1").2.store.codes.length = h.store.codes.length + 1 ∧
      (h.send "O1" "T1").2.outbox.letters.length = h.outbox.letters.length := by
  decide

/-- A send that answers that the code went out drew the next code `c` and wrote its fresh row to
the open store. -/
theorem send_delivered (hd : (h.send o t).1.delivered = true) :
    h.store.closed = false ∧ ∃ c email, h.codes = c :: (h.send o t).2.codes ∧
      (h.send o t).2.store.codes = h.store.codes ++ [h.freshRow o t c email] := by
  unfold send at hd ⊢
  rw [runPickup_eq] at hd ⊢
  rcases Attempt.send_cases o t h with ⟨-, hout⟩ | ⟨order, hopen, hrun⟩
  · rcases hres : ((Attempt.send o t).run.run h).1 with f | out
    · simp [hres, Outcome.delivered] at hd
    · simp [hres, hout out hres] at hd
  rw [hrun] at hd ⊢
  rcases Attempt.issue_cases order o t hopen with ⟨-, hi⟩ | ⟨c, rest, hc, hm⟩
  · simp [hi, Outcome.delivered] at hd
  refine ⟨hopen, c, order.email, ?_⟩
  generalize (Attempt.issue order o t).run.run h = res at hm hd ⊢
  cases hm with
  | unsent => exact ⟨hc, rfl⟩
  | accepted l => exact ⟨hc, rfl⟩
  | crashed _ => simp [Outcome.delivered] at hd

end Hub

end DeliveryFleet
