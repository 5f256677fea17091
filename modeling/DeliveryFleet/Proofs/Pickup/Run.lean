import DeliveryFleet.Proofs.Pickup.Operations

/-!
# Runs of pickup operations

A run is a list of pickup operations (`PickupOp`) applied in order to a hub, with the clock moving
forward between them (`PickupOp.advance`). `Hub.exec` is the hub a run leaves and `Hub.trace` what
each of its operations answered.

What a proof about runs needs from one operation is said here once:

* no operation changes the settings or whether the store answers, and only `advance` moves the
  clock, never back (`PickupOp.frame_run`, `PickupOp.now_le_run`);
* what an operation does to the code rows and to the codes still to hand out is one of the cases of
  `RowStep` (`PickupOp.rowStep`): nothing, a fresh issue, a resend's copy of the newest active row,
  the marking of an accepted verification, or a cleanup.

Over a run, the settings and the state of the store stay and the clock only moves forward
(`Hub.exec_settings`, `Hub.now_le_exec`). `Hub.pickupDemo` is a hub with one trip and one order to
run concrete runs on.
-/

namespace DeliveryFleet

/-- An operation of a pickup run: a pickup operation on a pair, a cleanup, or the clock moving on by
some nanoseconds. -/
inductive PickupOp where
  | send (o t : String)
  | resend (o t : String)
  | verify (o t c : String)
  | complete (o t : String)
  | cleanup
  | advance (d : Nat)
  deriving Repr, DecidableEq

namespace PickupOp

/-- Runs an operation: its outcome, none for a cleanup or the clock moving on, and the hub it
leaves. -/
def run : PickupOp → Hub → Option Outcome × Hub
  | send o t, h => ((h.send o t).1, (h.send o t).2)
  | resend o t, h => ((h.resend o t).1, (h.resend o t).2)
  | verify o t c, h => ((h.verify o t c).1, (h.verify o t c).2)
  | complete o t, h => ((h.complete o t).1, (h.complete o t).2)
  | cleanup, h => (none, h.cleanup.2)
  | advance d, h => (none, { h with now := h.now.add d })

end PickupOp

namespace Hub

/-- The hub a run leaves. -/
def exec (h : Hub) : List PickupOp → Hub
  | [] => h
  | op :: ops => (op.run h).2.exec ops

/-- Each operation of a run with what it answered. -/
def trace (h : Hub) : List PickupOp → List (PickupOp × Option Outcome)
  | [] => []
  | op :: ops => (op, (op.run h).1) :: (op.run h).2.trace ops

@[simp] theorem exec_nil (h : Hub) : h.exec [] = h := rfl

@[simp] theorem exec_cons (h : Hub) (op : PickupOp) (ops : List PickupOp) :
    h.exec (op :: ops) = (op.run h).2.exec ops := rfl

theorem exec_append (h : Hub) (l₁ l₂ : List PickupOp) :
    h.exec (l₁ ++ l₂) = (h.exec l₁).exec l₂ := by
  induction l₁ generalizing h with
  | nil => rfl
  | cons op ops ih => exact ih _

@[simp] theorem trace_nil (h : Hub) : h.trace [] = [] := rfl

@[simp] theorem trace_cons (h : Hub) (op : PickupOp) (ops : List PickupOp) :
    h.trace (op :: ops) = (op, (op.run h).1) :: (op.run h).2.trace ops := rfl

end Hub

namespace PickupOp

variable {h : Hub}

/-! ## The frame of one operation -/

/-- An operation other than the clock moving on keeps the clock, the settings and the state of the
store. -/
theorem frame_run {op : PickupOp} (hop : ∀ d, op ≠ advance d) : (op.run h).2.frame = h.frame := by
  cases op with
  | send o t => exact Hub.send_frame
  | resend o t => exact Hub.resend_frame
  | verify o t c => exact Hub.verify_frame
  | complete o t => exact congrArg (·.2.2.1) Hub.complete_keeps
  | cleanup => exact Hub.cleanup_frame
  | advance d => exact absurd rfl (hop d)

theorem settings_run (op : PickupOp) : (op.run h).2.settings = h.settings := by
  by_cases hop : ∀ d, op ≠ advance d
  · exact congrArg (·.2.1) (frame_run hop)
  · obtain ⟨d, rfl⟩ : ∃ d, op = advance d := by simpa using hop
    rfl

theorem closed_run (op : PickupOp) : (op.run h).2.store.closed = h.store.closed := by
  by_cases hop : ∀ d, op ≠ advance d
  · exact congrArg (·.2.2) (frame_run hop)
  · obtain ⟨d, rfl⟩ : ∃ d, op = advance d := by simpa using hop
    rfl

theorem now_le_run (op : PickupOp) : h.now.nanos ≤ (op.run h).2.now.nanos := by
  by_cases hop : ∀ d, op ≠ advance d
  · exact Int.le_of_eq (congrArg (·.1.nanos) (frame_run hop)).symm
  · obtain ⟨d, rfl⟩ : ∃ d, op = advance d := by simpa using hop
    simp only [run, Instant.add]
    omega

/-! ## What one operation does to the code rows -/

/-- What one operation does to the code rows and to the codes still to hand out. -/
inductive RowStep (op : PickupOp) (h h' : Hub) : Prop
  /-- The rows and the codes stay. -/
  | keep : h'.store.codes = h.store.codes → h'.codes = h.codes → RowStep op h h'
  /-- A send, or a resend that found no active code, draws a code; on an open store its fresh row
  is appended. -/
  | issue (o t c email : String) : (op = send o t ∨ op = resend o t) → h.codes = c :: h'.codes →
      h'.store.codes =
        (if h.store.closed then h.store.codes else h.store.codes ++ [h.freshRow o t c email]) →
      RowStep op h h'
  /-- A resend appends a copy of the pair's newest active row. -/
  | copy (o t : String) (prev : CodeRow) (email : String) : op = resend o t →
      h.store.latestActive o t h.now.toStored = .ok (some prev) → h'.codes = h.codes →
      h'.store.codes = h.store.codes ++ [h.copyRow prev email] → RowStep op h h'
  /-- An accepted verification marks the rows awaiting it. -/
  | mark (o t c : String) (otp : CodeRow) : op = verify o t c → h.Accepts o t c otp →
      h'.codes = h.codes → h'.store.codes = h.store.codes.map (Store.markRow o t c h.now.toStored) →
      RowStep op h h'
  /-- A cleanup of an open store deletes the rows that expired before the resend window. -/
  | purge : op = cleanup → h.store.closed = false → h'.codes = h.codes →
      h'.store.codes = h.store.codes.filter (fun r =>
        !Store.expiredBy h.now.toStored (h.now.add (-h.settings.resendWindow)).toStored r) →
      RowStep op h h'

theorem rowStep (op : PickupOp) (h : Hub) : RowStep op h (op.run h).2 := by
  cases op with
  | send o t =>
    rcases Hub.send_rows (h := h) (o := o) (t := t) with ⟨hr, hc⟩ | ⟨c, email, hc, hr⟩
    · exact .keep hr hc
    · exact .issue o t c email (.inl rfl) hc hr
  | resend o t =>
    rcases Hub.resend_rows (h := h) (o := o) (t := t) with
      ⟨hr, hc⟩ | ⟨c, email, hc, hr⟩ | ⟨prev, email, hl, hc, hr⟩
    · exact .keep hr hc
    · exact .issue o t c email (.inr rfl) hc hr
    · exact .copy o t prev email rfl hl hc hr
  | verify o t c =>
    have hv := Hub.verify_hub (h := h) (o := o) (t := t) (c := c)
    by_cases ha : (h.verify o t c).1 = .verified
    · obtain ⟨otp, hacc⟩ := Hub.verify_eq_verified_iff.1 ha
      rw [if_pos ha] at hv
      refine .mark o t c otp rfl hacc ?_ ?_ <;> simp [run, hv, Hub.release_eq, Hub.consume]
    · rw [if_neg ha] at hv
      exact .keep (by simp [run, hv]) (by simp [run, hv])
  | complete o t =>
    have hk := Prod.mk.inj (Hub.complete_keeps (h := h) (o := o) (t := t))
    exact .keep hk.1 (Prod.mk.inj hk.2).1
  | cleanup =>
    have hc := Hub.cleanup_eq (h := h)
    cases hs : h.store.closed
    · rw [hs, if_neg Bool.false_ne_true] at hc
      exact .purge rfl hs (by simp [run, hc]) (by simp [run, hc])
    · rw [hs, if_pos rfl] at hc
      exact .keep (by simp [run, hc]) (by simp [run, hc])
  | advance d => exact .keep rfl rfl

/-! ## What one operation does to the code rows of a pair -/

/-- What one operation does to the code rows of one pair. -/
inductive PairStep (o t : String) (op : PickupOp) (h h' : Hub) : Prop
  /-- The rows of the pair stay. -/
  | keep : h'.store.codesOf o t = h.store.codesOf o t → PairStep o t op h h'
  /-- A send or a resend of the pair draws a code and appends its fresh row. -/
  | fresh (c email : String) : (op = send o t ∨ op = resend o t) → h.codes = c :: h'.codes →
      h'.store.codesOf o t = h.store.codesOf o t ++ [h.freshRow o t c email] →
      PairStep o t op h h'
  /-- A resend of the pair appends a copy of its newest active row. -/
  | copy (prev : CodeRow) (email : String) : op = resend o t →
      h.store.latestActive o t h.now.toStored = .ok (some prev) →
      h'.store.codesOf o t = h.store.codesOf o t ++ [h.copyRow prev email] → PairStep o t op h h'
  /-- An accepted verification, of this pair or another, marks the rows awaiting it. -/
  | mark (o' t' c : String) (otp : CodeRow) : op = verify o' t' c → h.Accepts o' t' c otp →
      h'.store.codesOf o t =
        (h.store.codesOf o t).map (Store.markRow o' t' c h.now.toStored) →
      PairStep o t op h h'
  /-- A cleanup deletes the rows that expired before the resend window. -/
  | purge : op = cleanup →
      h'.store.codesOf o t = (h.store.codesOf o t).filter (fun r =>
        !Store.expiredBy h.now.toStored (h.now.add (-h.settings.resendWindow)).toStored r) →
      PairStep o t op h h'

theorem pairStep (o t : String) (op : PickupOp) (h : Hub) : PairStep o t op h (op.run h).2 := by
  cases rowStep op h with
  | keep hrows _ => exact .keep (by rw [Store.codesOf, hrows]; rfl)
  | issue o' t' c email hop hc hrows =>
    have hpair := Store.codesOf_of_codes hrows o t
    cases hs : h.store.closed
    · simp only [hs, Bool.false_eq_true, if_false] at hpair
      by_cases hp : o' = o ∧ t' = t
      · obtain ⟨rfl, rfl⟩ := hp
        exact .fresh c email hop hc (by rw [hpair]; simp [Store.codesOf, Hub.freshRow])
      · exact .keep (by rw [hpair]; simp [Store.codesOf, Hub.freshRow, hp])
    · simp only [hs, if_true] at hpair
      exact .keep hpair
  | copy o' t' prev email hop hl _ hrows =>
    have hpair := Store.codesOf_of_codes hrows o t
    -- the copy belongs to the pair of the row it copies
    have hprev : prev.orderCode = o' ∧ prev.tripCode = t' := by
      cases hs : h.store.closed
      · rw [Store.latestActive_of_open hs] at hl
        have hm := (List.mem_filter.1 (newest?_mem (Except.ok.inj hl))).1
        exact (Store.mem_codesOf.1 hm).2
      · simp [Store.latestActive, Store.guard, hs] at hl
    by_cases hp : o' = o ∧ t' = t
    · obtain ⟨rfl, rfl⟩ := hp
      exact .copy prev email hop hl (by rw [hpair]; simp [Store.codesOf, Hub.copyRow, hprev])
    · exact .keep (by rw [hpair]; simp [Store.codesOf, Hub.copyRow, hprev, hp])
  | mark o' t' c otp hop ha _ hrows =>
    refine .mark o' t' c otp hop ha ?_
    rw [Store.codesOf_of_codes hrows, List.filter_map, Store.codesOf]
    congr 2
    funext r
    simp
  | purge hop _ _ hrows =>
    refine .purge hop ?_
    rw [Store.codesOf_of_codes hrows, Store.codesOf, List.filter_filter, List.filter_filter]
    congr 1
    funext r
    exact Bool.and_comm _ _

/-- A send or a resend of a pair that draws a code from an open store appends the fresh row of that
code to the rows of the pair. -/
theorem codesOf_of_draw {op : PickupOp} {h : Hub} {o t c : String}
    (hop : op = send o t ∨ op = resend o t) (hopen : h.store.closed = false)
    (hdraw : h.codes = c :: (op.run h).2.codes) :
    ∃ email, (op.run h).2.store.codesOf o t = h.store.codesOf o t ++ [h.freshRow o t c email] := by
  cases rowStep op h with
  | keep _ hc => exact absurd (hc ▸ hdraw).symm (List.cons_ne_self _ _)
  | issue o' t' c' email hop' hc hrows =>
    -- the issue is of this pair and draws this code
    obtain ⟨rfl, rfl⟩ : o' = o ∧ t' = t := by
      rcases hop with rfl | rfl <;> rcases hop' with h' | h' <;> cases h' <;> exact ⟨rfl, rfl⟩
    obtain rfl : c' = c := List.head_eq_of_cons_eq (hc.symm.trans hdraw)
    refine ⟨email, ?_⟩
    rw [Store.codesOf_of_codes hrows, hopen, if_neg Bool.false_ne_true, List.filter_append]
    simp [Store.codesOf, Hub.freshRow]
  | copy _ _ _ _ _ _ hc _ => exact absurd (hc ▸ hdraw).symm (List.cons_ne_self _ _)
  | mark _ _ _ _ hop' _ _ _ => rcases hop with rfl | rfl <;> cases hop'
  | purge hop' _ _ _ => rcases hop with rfl | rfl <;> cases hop'

theorem codes_run_subset (op : PickupOp) (h : Hub) {c : String}
    (hc : c ∈ (op.run h).2.codes) : c ∈ h.codes := by
  cases rowStep op h with
  | keep _ hcodes => exact hcodes ▸ hc
  | issue _ _ _ _ _ hcodes _ => exact hcodes ▸ List.mem_cons_of_mem _ hc
  | copy _ _ _ _ _ _ hcodes _ => exact hcodes ▸ hc
  | mark _ _ _ _ _ _ hcodes _ => exact hcodes ▸ hc
  | purge _ _ hcodes _ => exact hcodes ▸ hc

end PickupOp

namespace Hub

variable (h : Hub)

/-! ## The frame of a run -/

theorem exec_settings (ops : List PickupOp) : (h.exec ops).settings = h.settings := by
  induction ops generalizing h with
  | nil => rfl
  | cons op ops ih => exact (ih _).trans (PickupOp.settings_run op)

theorem exec_closed (ops : List PickupOp) : (h.exec ops).store.closed = h.store.closed := by
  induction ops generalizing h with
  | nil => rfl
  | cons op ops ih => exact (ih _).trans (PickupOp.closed_run op)

theorem now_le_exec (ops : List PickupOp) : h.now.nanos ≤ (h.exec ops).now.nanos := by
  induction ops generalizing h with
  | nil => exact Int.le_refl _
  | cons op ops ih => exact Int.le_trans (PickupOp.now_le_run op) (ih _)

/-- A hub for concrete runs: its clock reads `start`, it hands out `codes`, it has neither a mailer
nor a publisher, and its store holds trip `T1` of robot `R1`, loading into container `C1`, with
order `O1` on it. -/
def pickupDemo (start : Instant) (codes : List String) : Hub :=
  { Hub.fresh { mailer := .absent, publisher := .absent } start 30000000000 5000 codes with
    store :=
      { trips := ({} : Std.TreeMap String TripRow compare).insert "T1" ⟨1, "T1", "R1", "C1", "LOADING"⟩
        orders := ({} : Std.TreeMap String OrderRow compare).insert "O1"
          ⟨1, "O1", 1, "a@b.c", "PENDING"⟩
        lastTripId := 1
        lastOrderId := 1 } }

end Hub

end DeliveryFleet
