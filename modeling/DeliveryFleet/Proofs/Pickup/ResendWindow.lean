import DeliveryFleet.Proofs.Pickup.Supersession

/-!
# The resend window

A resend is rate limited by counting rows, not by a counter of its own: it writes a row only when
fewer than `resendLimit` rows of the pair were created since the start of the resend window
(`Hub.resend_within_limit`), and a cleanup deletes only rows created before that start. While the
clock stays inside the range the store holds, so that the store compares instants as the clock
does:

* a resend that writes a row found fewer than the limit of rows of the pair created within the
  closed window `[now - resendWindow, now]` (`Hub.resend_writes_within_limit`);
* a cleanup keeps, in order, every row created within the window (`Hub.cleanup_keeps_window`);
* in a run with no send of a pair, every closed window of length `resendWindow` holds at most
  `resendLimit` rows of the pair (`Hub.windowBound_exec`). A resend is let in only when the rows
  created since its window's start are fewer than the limit, and any window holding the new row
  starts no earlier than that.
-/

namespace DeliveryFleet

/-- Whether a row was created within the closed interval `[s, e]` of stored instants. -/
def CodeRow.createdWithin (s e : Int) (r : CodeRow) : Bool := decide (s ≤ r.createdAt ∧ r.createdAt ≤ e)

/-- Rows of a list created within `[s, s + w]`, every window of length `w` holding at most `n`. -/
def WindowBounded (w n : Int) (l : List CodeRow) : Prop :=
  ∀ s : Int, ((l.filter (CodeRow.createdWithin s (s + w))).length : Int) ≤ n

namespace WindowBounded

variable {w n : Int} {l : List CodeRow}

/-- A row created at `since + w` joins rows of which fewer than `n` were created since `since`:
every window holding it starts no earlier than `since`, so each older row in it was counted. -/
theorem append (hb : WindowBounded w n l) {since : Int}
    (hc : ((l.filter fun x => decide (since ≤ x.createdAt)).length : Int) < n) {r : CodeRow}
    (hr : r.createdAt = since + w) : WindowBounded w n (l ++ [r]) := by
  intro s
  rw [List.filter_append, List.length_append]
  by_cases hin : CodeRow.createdWithin s (s + w) r = true
  · have hsub : (l.filter (CodeRow.createdWithin s (s + w))).length ≤
        (l.filter fun x => decide (since ≤ x.createdAt)).length := by
      apply List.Sublist.length_le
      apply List.monotone_filter_right
      intro x hx
      simp only [CodeRow.createdWithin, decide_eq_true_eq] at hx hin ⊢
      omega
    simp only [List.filter_cons, hin, if_true, List.filter_nil, List.length_singleton]
    omega
  · simp only [List.filter_cons, hin, Bool.false_eq_true, if_false, List.filter_nil,
      List.length_nil, Nat.add_zero]
    exact hb s

theorem sublist (hb : WindowBounded w n l) {l' : List CodeRow} (hs : l'.Sublist l) :
    WindowBounded w n l' := fun s =>
  Int.le_trans (Int.ofNat_le.2 (hs.filter _).length_le) (hb s)

/-- Rows whose creation instants are kept keep the bound. -/
theorem map (hb : WindowBounded w n l) {f : CodeRow → CodeRow}
    (hf : ∀ r, (f r).createdAt = r.createdAt) : WindowBounded w n (l.map f) := by
  intro s
  rw [List.filter_map, List.length_map]
  have hp : (CodeRow.createdWithin s (s + w) ∘ f) = CodeRow.createdWithin s (s + w) := by
    funext r
    simp [CodeRow.createdWithin, hf]
  rw [hp]
  exact hb s

end WindowBounded

namespace Hub

open Attempt

variable {h : Hub} {o t : String}

/-! ## The count a resend checks -/

/-- The rows of a pair a resend counts against the limit: those created since the start of the
resend window, as the store compares stored instants. -/
def resendCount (h : Hub) (o t : String) : Nat :=
  ((h.store.codesOf o t).filter fun r =>
    decide ((h.now.add (-h.settings.resendWindow)).toStored ≤ r.createdAt)).length

/-- A resend that writes a row found the store open and fewer rows than the limit since the start
of the window. -/
theorem resend_within_limit (hw : (h.resend o t).2.store.codes ≠ h.store.codes) :
    h.store.closed = false ∧ (h.resendCount o t : Int) < h.settings.resendLimit := by
  obtain ⟨r, he⟩ : ∃ r, (Attempt.eligible o t).run.run h = (r, h) :=
    ⟨_, Prod.ext rfl (Attempt.eligible_state o t h)⟩
  simp only [resend, runPickup_eq, countPickup_store, Attempt.resend, run_bind, he] at hw
  rcases r with e | out | ⟨order, trip⟩
  · exact absurd rfl hw
  · exact absurd rfl hw
  · cases hs : h.store.closed
    · simp only [run_bind, run_get, run_query, Store.countCreatedSince_of_open hs] at hw
      refine ⟨rfl, ?_⟩
      by_contra hn
      -- at the limit the resend answers `rateLimited` and writes nothing
      rw [if_pos (by simp only [resendCount] at hn; omega)] at hw
      exact hw rfl
    · simp [Store.countCreatedSince, Store.guard, hs, -ExceptT.run_bind] at hw

/-- The start of the resend window, when it fits the store's range, is stored as it is. -/
theorem windowStart_toStored (hwin : (h.now.add (-h.settings.resendWindow)).Storable) :
    (h.now.add (-h.settings.resendWindow)).toStored = h.now.nanos - h.settings.resendWindow := by
  rw [Instant.toStored_eq hwin]
  simp only [Instant.add]
  omega

/-- A resend at `now` writes a row only when fewer than `resendLimit` rows of the pair were created
within `[now - resendWindow, now]`. -/
theorem resend_writes_within_limit (hwin : (h.now.add (-h.settings.resendWindow)).Storable)
    (hw : (h.resend o t).2.store.codes ≠ h.store.codes) :
    (((h.store.codesOf o t).filter
        (CodeRow.createdWithin (h.now.nanos - h.settings.resendWindow) h.now.nanos)).length : Int) <
      h.settings.resendLimit := by
  have hlt := (resend_within_limit hw).2
  -- the window is part of what the resend counted
  have hsub : ((h.store.codesOf o t).filter
      (CodeRow.createdWithin (h.now.nanos - h.settings.resendWindow) h.now.nanos)).length ≤
      h.resendCount o t := by
    apply List.Sublist.length_le
    apply List.monotone_filter_right
    intro x hx
    simp only [CodeRow.createdWithin, windowStart_toStored hwin, decide_eq_true_eq] at hx ⊢
    exact hx.1
  omega

/-! ## Cleaning up -/

/-- A cleanup at `now` keeps every row created at or after `now - resendWindow`, in order. -/
theorem cleanup_keeps_window (hwin : (h.now.add (-h.settings.resendWindow)).Storable) :
    h.cleanup.2.store.codes.filter
        (fun r => decide (h.now.nanos - h.settings.resendWindow ≤ r.createdAt)) =
      h.store.codes.filter (fun r => decide (h.now.nanos - h.settings.resendWindow ≤ r.createdAt)) := by
  rw [cleanup_eq]
  split
  · rfl
  · rw [List.filter_filter]
    apply List.filter_congr
    intro r _
    -- a row created within the window is not old enough to delete
    simp only [Store.expiredBy, windowStart_toStored hwin]
    by_cases hr : h.now.nanos - h.settings.resendWindow ≤ r.createdAt <;> simp [hr]

/-! ## Windows over a run -/

/-- Every closed window of length `resendWindow` holds at most `resendLimit` rows of the pair. -/
def WindowBound (o t : String) (h : Hub) : Prop :=
  WindowBounded h.settings.resendWindow h.settings.resendLimit (h.store.codesOf o t)

/-- One operation other than a send of the pair keeps the window bound, while the clock and the
start of the resend window fit the store's range. -/
theorem windowBound_run (hb : h.WindowBound o t) (hnow : h.now.Storable)
    (hwin : (h.now.add (-h.settings.resendWindow)).Storable) {op : PickupOp}
    (hop : op ≠ .send o t) : (op.run h).2.WindowBound o t := by
  unfold WindowBound
  rw [PickupOp.settings_run]
  -- a row a resend appends is created now, and the resend counted the rows since the window start
  have grow : ∀ r, op = .resend o t → r.createdAt = h.now.toStored →
      (op.run h).2.store.codesOf o t = h.store.codesOf o t ++ [r] →
      WindowBounded h.settings.resendWindow h.settings.resendLimit
        ((op.run h).2.store.codesOf o t) := by
    rintro r rfl hr hp
    have hw : (h.resend o t).2.store.codes ≠ h.store.codes := fun heq => by
      have hsame : (h.resend o t).2.store.codesOf o t = h.store.codesOf o t := by
        rw [Store.codesOf, heq]
        rfl
      have hlen := congrArg List.length (hsame.symm.trans hp)
      simp at hlen
    rw [hp]
    refine hb.append (resend_within_limit hw).2 ?_
    rw [hr, windowStart_toStored hwin, Instant.toStored_eq hnow]
    omega
  cases PickupOp.pairStep o t op h with
  | keep hp => rw [hp]; exact hb
  | fresh c email hop' _ hp => exact grow _ (hop'.resolve_left hop) rfl hp
  | copy prev email hop' _ hp => exact grow _ hop' rfl hp
  | mark o' t' c otp _ _ hp =>
    rw [hp]
    exact hb.map fun r => Store.markRow_createdAt o' t' c _ r
  | purge _ hp =>
    rw [hp]
    exact hb.sublist List.filter_sublist

/-- In a run with no send of a pair, whose clock starts with the resend window inside the store's
range and ends inside it, the window bound holds throughout. -/
theorem windowBound_exec (hW : 0 < h.settings.resendWindow) (ops : List PickupOp)
    (hsend : ∀ op ∈ ops, op ≠ .send o t) (hb : h.WindowBound o t)
    (hstart : int64Min ≤ h.now.nanos - h.settings.resendWindow)
    (hend : (h.exec ops).now.nanos ≤ int64Max) : (h.exec ops).WindowBound o t := by
  induction ops generalizing h with
  | nil => exact hb
  | cons op ops ih =>
    have hend : ((op.run h).2.exec ops).now.nanos ≤ int64Max := hend
    have hset := PickupOp.settings_run op (h := h)
    have hle₁ := PickupOp.now_le_run op (h := h)
    have hle₂ := now_le_exec (op.run h).2 ops
    have hnow : h.now.Storable := ⟨by omega, by omega⟩
    have hwin : (h.now.add (-h.settings.resendWindow)).Storable := by
      constructor <;> simp only [Instant.add] <;> omega
    refine ih (hset ▸ hW) (fun op' hop' => hsend op' (List.mem_cons_of_mem _ hop'))
      (windowBound_run hb hnow hwin (hsend op List.mem_cons_self)) ?_ hend
    rw [hset]
    omega

end Hub

end DeliveryFleet
