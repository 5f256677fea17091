import DeliveryFleet.Proofs.Session.DurableRows
import DeliveryFleet.Proofs.Liveness.Sweep

/-!
# Online rows after a sweep and a flush

A robot's durable row may say online only while something keeps it honest (`Hub.Backs`): the
robot's write waits in the queue, so the next flush rewrites the flag from the tracker, or its
sighting is flagged alive and reports itself alive (`Tracker.Flagged`). A robot stops being
flagged only when it is taken offline (by name, with every robot, or by its own heartbeat) or its
sighting is swept away, and each of these reports the robot offline and schedules its row
(`Hub.keepsBacking_offline`); a flush rewrites every row whose write waits.

So every step keeps every online row backed (`Hub.KeepsBacking`, `Console.keepsBacking_runStep`),
as long as the queue drops no write and the store stays open: a dropped write is counted
(`Hub.dropped`) and a closed store answers no query. After a sweep and a flush at the same instant
no write waits and no sighting is stale, so every row that says online is of a robot alive
(`Console.online_rows_alive_after_sweep_flush`).
-/

namespace DeliveryFleet

namespace Tracker

variable (t : Tracker) {robot r : String}

/-- The tracker flags the robot alive, and the robot reports itself alive. -/
def Flagged (robot : String) : Prop :=
  ∃ e, t.entries[robot]? = some e ∧ e.alive = true ∧ e.selfReported = true

/-- A robot alive at an instant is flagged. -/
theorem flagged_of_isAlive {now : Instant} (ha : t.isAlive robot now = true) : t.Flagged robot := by
  unfold isAlive at ha
  rw [Std.TreeMap.get?_eq_getElem?] at ha
  cases he : t.entries[robot]? with
  | none => simp [he] at ha
  | some e =>
    simp only [he, aliveAt, Bool.and_eq_true] at ha
    exact ⟨e, he, ha.1.1, ha.1.2⟩

/-- After a sweep, a flagged robot is alive at the sweep's instant: its sighting was not stale. -/
theorem isAlive_sweep_of_flagged {now : Instant} (hf : (t.sweep now).1.Flagged robot) :
    (t.sweep now).1.isAlive robot now = true := by
  obtain ⟨e, he, halive, hself⟩ := hf
  rw [sweep_entry] at he
  obtain ⟨he, hfresh⟩ := Option.filter_eq_some_iff.1 he
  have hs : t.stale e now = false := by simpa using hfresh
  simp [isAlive, sweep_entry, he, aliveAt, halive, hself, hs, Option.filter]

/-- Taking a robot offline reports it exactly when its sighting was flagged alive. -/
theorem markOffline_reports :
    (t.markOffline r).2 = true ↔ ∃ e, t.entries[r]? = some e ∧ e.alive = true := by
  unfold markOffline
  rw [Std.TreeMap.get?_eq_getElem?]
  cases t.entries[r]? <;> simp

namespace Flagged

variable {t}

theorem markSeen (hf : t.Flagged robot) (r : String) (now : Instant) :
    (t.markSeen r now).Flagged robot := by
  obtain ⟨e, he, halive, hself⟩ := hf
  by_cases hr : r = robot
  · subst hr
    exact ⟨_, markSeen_entry_self t now, rfl, by simp [he, hself]⟩
  · exact ⟨e, (markSeen_entry_ne t hr now).trans he, halive, hself⟩

theorem setSelfReported_true (hf : t.Flagged robot) (r : String) :
    (t.setSelfReported r true).Flagged robot := by
  obtain ⟨e, he, halive, hself⟩ := hf
  rw [Flagged, setSelfReported_entry, he]
  split
  · exact ⟨_, rfl, halive, rfl⟩
  · exact ⟨e, rfl, halive, hself⟩

/-- Taking a robot offline unflags that robot only, and reports it when it was flagged. -/
theorem markOffline (hf : t.Flagged robot) (r : String) :
    (t.markOffline r).1.Flagged robot ∨ robot ∈ (if (t.markOffline r).2 then [r] else []) := by
  obtain ⟨e, he, halive, hself⟩ := hf
  by_cases hr : r = robot
  · subst hr
    right
    rw [if_pos ((markOffline_reports t).2 ⟨e, he, halive⟩)]
    exact List.mem_singleton_self _
  · left
    exact ⟨e, by rw [markOffline_entry, if_neg hr, he], halive, hself⟩

/-- A heartbeat saying a robot goes away unflags that robot only, and reports it when it was
flagged. -/
theorem goodbye (hf : t.Flagged robot) (r : String) :
    ((t.setSelfReported r false).markOffline r).1.Flagged robot ∨
      robot ∈ (if ((t.setSelfReported r false).markOffline r).2 then [r] else []) := by
  obtain ⟨e, he, halive, hself⟩ := hf
  by_cases hr : r = robot
  · subst hr
    right
    -- clearing the self-reported flag keeps the alive flag, which is what gets reported
    have hkept : (t.setSelfReported r false).entries[r]? = some { e with selfReported := false } := by
      rw [setSelfReported_entry, if_pos rfl, he]
      rfl
    rw [if_pos ((markOffline_reports _).2 ⟨_, hkept, halive⟩)]
    exact List.mem_singleton_self _
  · left
    refine ⟨e, ?_, halive, hself⟩
    rw [markOffline_entry, if_neg hr, setSelfReported_entry, if_neg hr, he]

theorem markAllOffline (hf : t.Flagged robot) : robot ∈ t.markAllOffline.2 := by
  obtain ⟨e, he, halive, -⟩ := hf
  simp [Tracker.markAllOffline, Std.TreeMap.mem_iff_isSome_getElem?, he, halive]

/-- A sweep keeps a flagged robot flagged, or forgets it. -/
theorem sweep (hf : t.Flagged robot) (now : Instant) :
    (t.sweep now).1.Flagged robot ∨ robot ∈ (t.sweep now).2.1 := by
  by_cases hm : robot ∈ (t.sweep now).2.1
  · exact .inr hm
  · left
    obtain ⟨e, he, halive, hself⟩ := hf
    exact ⟨e, (sweep_entry_of_not_mem t now hm).trans he, halive, hself⟩

end Flagged

end Tracker

namespace Hub

variable (h : Hub)

/-- How many writes the queue has dropped. -/
def dropped : Nat := h.counters.writeThrough.getD "dropped" 0

/-- What keeps a robot's online row honest: its write waits, or its sighting is flagged. -/
def Backs (robot : String) : Prop :=
  WriteTask.robot robot ∈ h.queue.pending ∨ h.tracker.Flagged robot

/-- Every robot row that says online is backed. -/
def OnlineBacked : Prop :=
  ∀ robot row, h.store.robots[robot]? = some row → row.online = true → h.Backs robot

/-- What keeping rows backed reads of a hub: whether robot rows are kept, the dropped count,
whether the store answers, the robot rows, the waiting writes and the sightings. -/
def backingInputs : Bool × Nat × Bool × Std.TreeMap String RobotRow compare × List WriteTask ×
    Std.TreeMap String Sighting compare :=
  (h.settings.robotsRepo, h.dropped, h.store.closed, h.store.robots, h.queue.pending,
    h.tracker.entries)

/-- A change of the hub that keeps online rows backed: it keeps whether robot rows are kept, never
lowers the dropped count or opens a closed store, and when it drops nothing and leaves the store
open, every online row it leaves is backed if every one it found was. -/
structure KeepsBacking (h h' : Hub) : Prop where
  repo : h'.settings.robotsRepo = h.settings.robotsRepo
  dropped_le : h.dropped ≤ h'.dropped
  closed : h.store.closed = true → h'.store.closed = true
  backed : h'.store.closed = false → h'.dropped = h.dropped → h.OnlineBacked → h'.OnlineBacked

namespace KeepsBacking

theorem refl : KeepsBacking h h := ⟨rfl, Nat.le_refl _, id, fun _ _ hb => hb⟩

variable {h} {h' h'' : Hub}

theorem trans (h₁ : KeepsBacking h h') (h₂ : KeepsBacking h' h'') : KeepsBacking h h'' where
  repo := h₂.repo.trans h₁.repo
  dropped_le := Nat.le_trans h₁.dropped_le h₂.dropped_le
  closed hc := h₂.closed (h₁.closed hc)
  backed hopen hd hb := by
    -- the middle hub is open too, and dropped nothing either
    have hopen' : h'.store.closed = false := by
      cases hc : h'.store.closed
      · rfl
      · rw [h₂.closed hc] at hopen
        cases hopen
    have hd' : h'.dropped = h.dropped := Nat.le_antisymm (hd ▸ h₂.dropped_le) h₁.dropped_le
    exact h₂.backed hopen (hd.trans hd'.symm) (h₁.backed hopen' hd' hb)

/-- A change that keeps the rows, the dropped count and whether the store answers, and keeps every
backed robot backed, keeps online rows backed. -/
theorem of_backs (hrepo : h'.settings.robotsRepo = h.settings.robotsRepo)
    (hdrop : h'.dropped = h.dropped) (hclosed : h'.store.closed = h.store.closed)
    (hrows : h'.store.robots = h.store.robots) (hb : ∀ r, h.Backs r → h'.Backs r) :
    KeepsBacking h h' where
  repo := hrepo
  dropped_le := Nat.le_of_eq hdrop.symm
  closed hc := hclosed.trans hc
  backed _ _ hback r row hrow honline := hb r (hback r row (hrows ▸ hrow) honline)

theorem of_inputs (he : h'.backingInputs = h.backingInputs) : KeepsBacking h h' := by
  simp only [backingInputs, Prod.mk.injEq] at he
  obtain ⟨hrepo, hdrop, hclosed, hrows, hpending, hentries⟩ := he
  refine of_backs hrepo hdrop hclosed hrows fun r hb => ?_
  simpa [Backs, Tracker.Flagged, hpending, hentries] using hb

end KeepsBacking

/-! ## Queueing writes -/

theorem dropped_countWrite (l : String) :
    (h.countWrite l).dropped = if l = "dropped" then h.dropped + 1 else h.dropped := by
  simp only [dropped, countWrite, Tally.bump, Std.TreeMap.getD_insert, compare_eq_iff_eq]
  split <;> simp_all

theorem push_eq (t : WriteTask) :
    h.push t =
      if h.queue.pending.length < h.queue.capacity then
        { h with queue := { h.queue with pending := h.queue.pending ++ [t] } }
      else h.countWrite "dropped" := by
  by_cases hl : h.queue.pending.length < h.queue.capacity <;> simp [push, WriteQueue.push, hl]

theorem keepsBacking_push (t : WriteTask) : KeepsBacking h (h.push t) := by
  rw [push_eq]
  split
  · exact KeepsBacking.of_backs rfl rfl rfl rfl fun r hb =>
      hb.imp (fun hp => List.mem_append_left _ hp) id
  · -- a dropped write raises the count, so there is nothing to keep
    refine ⟨rfl, ?_, id, fun _ hd _ => ?_⟩
    · simp [dropped_countWrite]
    · simp [dropped_countWrite] at hd

/-- A push that drops nothing adds its task behind the waiting ones. -/
theorem push_pending_of_kept {t : WriteTask} (hd : (h.push t).dropped = h.dropped) :
    (h.push t).queue.pending = h.queue.pending ++ [t] := by
  rw [push_eq] at hd ⊢
  by_cases hl : h.queue.pending.length < h.queue.capacity
  · rw [if_pos hl]
  · rw [if_neg hl, dropped_countWrite] at hd
    simp at hd

theorem keepsBacking_scheduleRobot (r : String) : KeepsBacking h (h.scheduleRobot r) := by
  unfold scheduleRobot
  split
  · exact keepsBacking_push h _
  · exact KeepsBacking.refl h

theorem keepsBacking_scheduleContainer (r c : String) :
    KeepsBacking h (h.scheduleContainer r c) := by
  unfold scheduleContainer
  split
  · exact keepsBacking_push h _
  · exact KeepsBacking.refl h

/-- Scheduling a robot's row, with robot rows kept and nothing dropped, leaves its write waiting
behind the ones that waited. -/
theorem scheduleRobot_pending_of_kept (hrepo : h.settings.robotsRepo = true) (r : String)
    (hd : (h.scheduleRobot r).dropped = h.dropped) :
    (h.scheduleRobot r).queue.pending = h.queue.pending ++ [.robot r] := by
  unfold scheduleRobot at hd ⊢
  rw [if_pos hrepo] at hd ⊢
  exact push_pending_of_kept h hd

/-- Reporting robots offline keeps online rows backed, and changes neither the store, the settings,
the tracker nor the clock. -/
theorem wentOffline_keeps (rs : List String) :
    KeepsBacking h (h.wentOffline rs) ∧ (h.wentOffline rs).store = h.store ∧
      (h.wentOffline rs).settings = h.settings ∧ (h.wentOffline rs).tracker = h.tracker ∧
      (h.wentOffline rs).now = h.now := by
  unfold wentOffline
  induction rs generalizing h with
  | nil => exact ⟨KeepsBacking.refl h, rfl, rfl, rfl, rfl⟩
  | cons r rs ih =>
    rw [List.foldl_cons]
    let h₁ := { h with outbox := { h.outbox with offline := h.outbox.offline ++ [r] } }
    obtain ⟨hk, hs, hset, ht, hnow⟩ := ih (h₁.scheduleRobot r)
    have hk₁ : KeepsBacking h h₁ := .of_inputs rfl
    -- scheduling the robot's write changes only the queue, or the dropped tally
    have hfields : (h₁.scheduleRobot r).settings = h.settings ∧ (h₁.scheduleRobot r).now = h.now := by
      unfold scheduleRobot
      split
      · rw [push_eq]
        split <;> exact ⟨rfl, rfl⟩
      · exact ⟨rfl, rfl⟩
    refine ⟨hk₁.trans ((keepsBacking_scheduleRobot h₁ r).trans hk), ?_, hset.trans hfields.1, ?_,
      hnow.trans hfields.2⟩
    · rw [hs]
      unfold scheduleRobot
      split
      · exact push_store _ _
      · rfl
    · rw [ht]
      exact congrArg Prod.fst (scheduleRobot_robots _ r)

/-- Reporting robots offline, with robot rows kept and nothing dropped, leaves each reported
robot's write waiting, and every write that waited. -/
theorem wentOffline_pending (hrepo : h.settings.robotsRepo = true) (rs : List String)
    (hd : (h.wentOffline rs).dropped = h.dropped) {t : WriteTask}
    (ht : t ∈ h.queue.pending ∨ ∃ r ∈ rs, t = .robot r) : t ∈ (h.wentOffline rs).queue.pending := by
  unfold wentOffline at hd ⊢
  induction rs generalizing h with
  | nil =>
    rcases ht with ht | ⟨_, hr, _⟩
    · exact ht
    · cases hr
  | cons r rs ih =>
    let h₁ := { h with outbox := { h.outbox with offline := h.outbox.offline ++ [r] } }
    have hk₁ := keepsBacking_scheduleRobot h₁ r
    have hk₂ := (wentOffline_keeps (h₁.scheduleRobot r) rs).1
    rw [List.foldl_cons] at hd ⊢
    -- neither part dropped anything, since the whole dropped nothing
    have hd₁ : (h₁.scheduleRobot r).dropped = h₁.dropped :=
      Nat.le_antisymm (hd ▸ hk₂.dropped_le) hk₁.dropped_le
    have hd₂ := hd.trans hd₁.symm
    have hp := scheduleRobot_pending_of_kept h₁ hrepo r hd₁
    refine ih (h₁.scheduleRobot r) (hk₁.repo.trans hrepo) hd₂ ?_
    rw [hp]
    rcases ht with ht | ⟨r', hr', rfl⟩
    · exact .inl (List.mem_append_left _ ht)
    · rcases List.mem_cons.1 hr' with rfl | hr'
      · exact .inl (List.mem_append_right _ (List.mem_singleton_self _))
      · exact .inr ⟨r', hr', rfl⟩

/-- Unflagging robots and reporting them offline keeps online rows backed, when every robot the
new tracker no longer flags is reported: its row is scheduled. -/
theorem keepsBacking_offline (h₁ : Hub) (ids : List String) (hrepo : h.settings.robotsRepo = true)
    (hset : h₁.settings = h.settings) (hdrop : h₁.dropped = h.dropped) (hstore : h₁.store = h.store)
    (hq : h₁.queue = h.queue)
    (hflag : ∀ r, h.tracker.Flagged r → h₁.tracker.Flagged r ∨ r ∈ ids) :
    KeepsBacking h (h₁.wentOffline ids) := by
  obtain ⟨hk, hs, hset', ht, -⟩ := wentOffline_keeps h₁ ids
  refine ⟨by rw [hset', hset], hdrop ▸ hk.dropped_le, fun hc => ?_, fun hopen hd hb => ?_⟩
  · rw [hs, hstore]
    exact hc
  · intro r row hrow honline
    rw [hs, hstore] at hrow
    have hrepo₁ : h₁.settings.robotsRepo = true := hset ▸ hrepo
    have hd₁ : (h₁.wentOffline ids).dropped = h₁.dropped := hd.trans hdrop.symm
    rcases hb r row hrow honline with hp | hf
    · exact .inl (wentOffline_pending h₁ hrepo₁ ids hd₁ (.inl (hq ▸ hp)))
    · rcases hflag r hf with hf' | hm
      · exact .inr (ht ▸ hf')
      · exact .inl (wentOffline_pending h₁ hrepo₁ ids hd₁ (.inr ⟨r, hm, rfl⟩))

/-! ## What each operation does to backing -/

theorem keepsBacking_touch (r : String) : KeepsBacking h (h.touch r) := by
  have hseen : KeepsBacking h { h with tracker := h.tracker.markSeen r h.now } :=
    .of_backs rfl rfl rfl rfl fun _ hb => hb.imp id (·.markSeen r h.now)
  exact hseen.trans (keepsBacking_scheduleRobot _ r)

theorem keepsBacking_putContainer (r : String) (v : ContainerState) :
    KeepsBacking h (h.putContainer r v) := by
  have hseen : KeepsBacking h
      { h.withCache (·.putContainer r v) with tracker := h.tracker.markSeen r h.now } :=
    .of_backs rfl rfl rfl rfl fun _ hb => hb.imp id (·.markSeen r h.now)
  exact hseen.trans (keepsBacking_scheduleContainer _ r v.containerCode)

theorem keepsBacking_markOffline (hrepo : h.settings.robotsRepo = true) (r : String) :
    KeepsBacking h (h.markOffline r) :=
  keepsBacking_offline h { h with tracker := (h.tracker.markOffline r).1 }
    (if (h.tracker.markOffline r).2 then [r] else []) hrepo rfl rfl rfl rfl
    fun _ hf => hf.markOffline r

theorem keepsBacking_markAllOffline (hrepo : h.settings.robotsRepo = true) :
    KeepsBacking h h.markAllOffline.2 :=
  keepsBacking_offline h { h with tracker := h.tracker.markAllOffline.1 } h.tracker.markAllOffline.2
    hrepo rfl rfl rfl rfl fun _ hf => .inr hf.markAllOffline

theorem keepsBacking_sweep (hrepo : h.settings.robotsRepo = true) : KeepsBacking h h.sweep.2 :=
  keepsBacking_offline h
    { h with tracker := (h.tracker.sweep h.now).1,
             counters := { h.counters with robotsAlive := (h.tracker.sweep h.now).2.2,
                                           evictions := h.counters.evictions +
                                             (h.tracker.sweep h.now).2.1.length } }
    (h.tracker.sweep h.now).2.1 hrepo rfl rfl rfl rfl fun _ hf => hf.sweep h.now

/-- A heartbeat keeps online rows backed: one saying the robot stays flags it if anything, and
one saying it goes away reports it offline when it was flagged. -/
theorem keepsBacking_heartbeat (hrepo : h.settings.robotsRepo = true) (r : String)
    (alive : Bool) : KeepsBacking h (h.heartbeat r alive) := by
  cases alive
  · exact keepsBacking_offline h
      { h with tracker := ((h.tracker.setSelfReported r false).markOffline r).1 }
      (if ((h.tracker.setSelfReported r false).markOffline r).2 then [r] else []) hrepo rfl rfl rfl
      rfl fun _ hf => hf.goodbye r
  · have hself : KeepsBacking h { h with tracker := h.tracker.setSelfReported r true } :=
      .of_backs rfl rfl rfl rfl fun _ hb => hb.imp id (·.setSelfReported_true r)
    exact hself.trans (keepsBacking_touch _ r)

/-- Caching a reading and marking its robot seen keeps online rows backed. -/
theorem keepsBacking_cacheTouch (f : Cache → Cache) (r : String) :
    KeepsBacking h ((h.withCache f).touch r) :=
  (KeepsBacking.of_inputs rfl : KeepsBacking h (h.withCache f)).trans (keepsBacking_touch _ r)

theorem keepsBacking_apply (hrepo : h.settings.robotsRepo = true) (r : String) (m : Message) :
    KeepsBacking h (h.apply r m) := by
  cases m with
  | container v _ _ => exact keepsBacking_putContainer h r v
  | heartbeat alive => exact keepsBacking_heartbeat h hrepo r alive
  | _ => exact keepsBacking_cacheTouch h _ r

theorem keepsBacking_hit {α : Type} (r : String) (v : Option α) : KeepsBacking h (h.hit? r v).2 := by
  unfold hit?
  split
  · split
    · exact keepsBacking_scheduleRobot h r
    · exact KeepsBacking.refl h
  · exact KeepsBacking.refl h

theorem keepsBacking_container (r c : String) : KeepsBacking h (h.container? r c).2 := by
  unfold container?
  split
  · split
    · exact keepsBacking_scheduleContainer h r c
    · exact KeepsBacking.refl h
  · exact KeepsBacking.refl h

/-! ## A flush -/

/-- A flush keeps every view that each of its writes keeps and that emptying the queue keeps. -/
theorem flush_view {β : Type} (V : Hub → β) (hstep : ∀ g t, V (g.flushStep t) = V g)
    (hdrain : V { h with queue := h.queue.drained } = V h) : V h.flush = V h := by
  rw [flush_eq]
  suffices ∀ (l : List WriteTask) (g : Hub), V (l.foldl flushStep g) = V g from
    (this _ _).trans hdrain
  intro l
  induction l with
  | nil => exact fun _ => rfl
  | cons t l ih => exact fun g => (ih _).trans (hstep g t)

/-- A write of a flush counts a success or a failure: it keeps whether robot rows are kept, the
dropped count and whether the store answers. -/
theorem flushStep_keeps (t : WriteTask) :
    ((h.flushStep t).settings.robotsRepo, (h.flushStep t).dropped, (h.flushStep t).store.closed) =
      (h.settings.robotsRepo, h.dropped, h.store.closed) := by
  obtain ⟨s, he, hs⟩ := write_changes_store (h := h) t
  have hlabel : (if (h.write t).1 then "success" else "failed") ≠ "dropped" := by
    split <;> decide
  simp only [flushStep, dropped_countWrite, if_neg hlabel]
  rw [he]
  simp [countWrite, dropped, hs]

/-- A flush keeps online rows backed: each row it writes says online only for a robot alive at
the flush, so flagged, and each row it keeps was backed by a sighting, since its write did not
wait. -/
theorem keepsBacking_flush (hk : h.store.Keyed) : KeepsBacking h h.flush := by
  have hV := flush_view h (fun g => (g.settings.robotsRepo, g.dropped, g.store.closed))
    (fun g t => flushStep_keeps g t) rfl
  simp only [Prod.mk.injEq] at hV
  obtain ⟨hrepo, hdrop, hclosed⟩ := hV
  have ht : h.flush.tracker = h.tracker := congrArg Prod.fst (flush_robots h)
  refine ⟨hrepo, Nat.le_of_eq hdrop.symm, fun hc => hclosed.trans hc, fun hopen _ hb => ?_⟩
  intro r row hrow honline
  right
  rw [ht]
  by_cases hp : WriteTask.robot r ∈ h.queue.pending
  · rw [flush_robotRow_of_pending h hk (hclosed ▸ hopen) hp] at hrow
    cases hrow
    exact h.tracker.flagged_of_isAlive honline
  · rw [flush_robotRow_of_not_pending h hk hp] at hrow
    exact (hb r row hrow honline).resolve_left hp

/-! ## Steps that keep what backing reads -/

@[simp] theorem takeOutbox_backingInputs : h.takeOutbox.2.backingInputs = h.backingInputs := rfl

open Attempt in
theorem runPickup_backingInputs (op : String) {a : Attempt Outcome}
    (ha : Preserves backingInputs a) : (h.runPickup op a).2.backingInputs = h.backingInputs :=
  ha h

@[simp] theorem send_backingInputs (o t : String) :
    (h.send o t).2.backingInputs = h.backingInputs :=
  runPickup_backingInputs h _
    (Attempt.preserves_send (fun _ _ => rfl) (fun _ _ => rfl) (fun _ _ => rfl) o t)

@[simp] theorem resend_backingInputs (o t : String) :
    (h.resend o t).2.backingInputs = h.backingInputs :=
  runPickup_backingInputs h _
    (Attempt.preserves_resend (fun _ _ => rfl) (fun _ _ => rfl) (fun _ _ => rfl) o t)

@[simp] theorem complete_backingInputs (o t : String) :
    (h.complete o t).2.backingInputs = h.backingInputs :=
  runPickup_backingInputs h _
    (Attempt.preserves_complete (fun _ _ _ hc hr _ => by simp [backingInputs, dropped, hc, hr]) o t)

@[simp] theorem verify_backingInputs (o t c : String) :
    (h.verify o t c).2.backingInputs = h.backingInputs := by
  rw [verify_hub]
  split
  · rw [release_eq]
    rfl
  · rfl

@[simp] theorem cleanup_backingInputs : h.cleanup.2.backingInputs = h.backingInputs := by
  rw [cleanup_eq]
  split <;> rfl

@[simp] theorem publish_backingInputs (c : Command) :
    (h.publish c).1.backingInputs = h.backingInputs := by
  unfold publish
  split <;> rfl

theorem keepsBacking_handle (hrepo : h.settings.robotsRepo = true) (r : String) (m : Message) :
    KeepsBacking h (h.handle r m).2 := by
  have ha := keepsBacking_apply h hrepo r m
  unfold handle
  dsimp only
  split
  · split
    · exact ha.trans (.of_inputs (complete_backingInputs _ _ _))
    · exact ha
  · exact ha

theorem keepsBacking_route (hrepo : h.settings.robotsRepo = true) (topic : List UInt8)
    (payload : List UInt8) : KeepsBacking h (h.route topic payload).2 := by
  unfold route
  rcases Route.match? h.settings.root topic with _ | ⟨k, r⟩
  · exact .of_inputs rfl
  · dsimp only
    cases Message.decode k payload with
    | none => exact .of_inputs rfl
    | some m => exact (keepsBacking_handle h hrepo r m).trans (.of_inputs rfl)

/-- Closing the store keeps online rows backed: a closed store answers no query. -/
theorem keepsBacking_close : KeepsBacking h { h with store := { h.store with closed := true } } :=
  ⟨rfl, Nat.le_refl _, fun _ => rfl, fun hopen => absurd hopen (by simp)⟩

/-- Right after a sweep and a flush, a robot whose row is backed is online: no write waits, so
the tracker flags the robot, and a flagged sighting that the sweep kept is alive. -/
theorem isOnline_of_backs_after_sweep_flush {robot : String}
    (hb : h.sweep.2.takeOutbox.2.flush.takeOutbox.2.Backs robot) :
    h.sweep.2.takeOutbox.2.flush.takeOutbox.2.isOnline robot = true := by
  have hdrained : h.sweep.2.takeOutbox.2.flush.takeOutbox.2.queue.pending = [] := by
    show h.sweep.2.takeOutbox.2.flush.queue.pending = []
    rw [flush_queue]
    rfl
  have htracker : h.sweep.2.takeOutbox.2.flush.takeOutbox.2.tracker = (h.tracker.sweep h.now).1 :=
    (congrArg Prod.fst (flush_robots _)).trans (sweep_tracker h)
  have hnow : h.sweep.2.takeOutbox.2.flush.takeOutbox.2.now = h.now :=
    (flush_view _ now (fun g t => flushStep_now g t) rfl).trans (wentOffline_keeps _ _).2.2.2.2
  have hflag : (h.tracker.sweep h.now).1.Flagged robot := by
    rw [← htracker]
    exact hb.resolve_left (by simp [hdrained])
  rw [isOnline, htracker, hnow]
  exact Tracker.isAlive_sweep_of_flagged _ hflag

end Hub

namespace Console

open Hub

theorem store_backingInputs {h : Hub} {s : Store} (hrobots : s.robots = h.store.robots)
    (hclosed : s.closed = h.store.closed) :
    ({ h with store := s } : Hub).backingInputs = h.backingInputs := by
  simp [backingInputs, dropped, hrobots, hclosed]

/-- Every move keeps online rows backed, while robot rows are kept and the store files rows under
their codes. -/
theorem StepMove.keepsBacking {h h' : Hub} {step : Json} (hmove : StepMove h step h')
    (hk : h.store.Keyed) (hrepo : h.settings.robotsRepo = true) : KeepsBacking h h' := by
  cases hmove with
  | keep => exact KeepsBacking.refl h
  | advance => exact .of_inputs rfl
  | closeStore => exact keepsBacking_close h
  | route => exact keepsBacking_route h hrepo _ _
  | reading | isFree => exact keepsBacking_hit h _ _
  | container => exact keepsBacking_container h _ _
  | markOffline => exact keepsBacking_markOffline h hrepo _
  | markAllOffline => exact keepsBacking_markAllOffline h hrepo
  | sweep => exact keepsBacking_sweep h hrepo
  | flush => exact keepsBacking_flush h hk
  -- the store writes touch neither the robot rows nor whether the store answers
  | saveTrip _ hs =>
    exact .of_inputs (store_backingInputs (Store.saveTrip_keeps_rows hs).1
      (Store.saveTrip_keeps_codes hs).2)
  | saveOrder _ hs =>
    exact .of_inputs (store_backingInputs (Store.saveOrder_keeps_rows hs).1
      (Store.saveOrder_keeps_codes hs).2)
  | insertCode _ hs =>
    rw [Store.eq_of_insertCode_eq_ok hs]
    exact .of_inputs rfl
  -- the pickup operations and a publication keep what backing reads
  | send | resend | verify | complete | cleanup | publish => exact .of_inputs (by simp)

/-- Every step keeps online rows backed, while robot rows are kept and the store files rows under
their codes. -/
theorem keepsBacking_runStep {h : Hub} (hk : h.store.Keyed) (hrepo : h.settings.robotsRepo = true)
    (step : Json) : KeepsBacking h (runStep h step).2 :=
  (runStep_move h step).keepsBacking hk hrepo

theorem keepsBacking_nextHub {h : Hub} (hk : h.store.Keyed) (hrepo : h.settings.robotsRepo = true)
    (step : Json) : KeepsBacking h (nextHub h step) := by
  cases step with
  | object _ => exact (keepsBacking_runStep hk hrepo _).trans (.of_inputs rfl)
  | _ => exact KeepsBacking.refl h

/-- A session keeps online rows backed, from a hub ready to write through that keeps robot rows. -/
theorem keepsBacking_afterSteps {h : Hub} (hr : h.WriteReady) (hrepo : h.settings.robotsRepo = true)
    (steps : List Json) : KeepsBacking h (afterSteps h steps) := by
  induction steps generalizing h with
  | nil => exact KeepsBacking.refl h
  | cons step steps ih =>
    have hk := keepsBacking_nextHub hr.keyed hrepo step
    exact hk.trans (ih (writeReady_nextHub hr step) (hk.repo.trans hrepo))

/-- Right after a sweep and a flush at one instant, every robot row the store lists as online is
of a robot online at that instant, in a session from a fresh hub that keeps robot rows and drops
no write. -/
theorem online_rows_alive_after_sweep_flush (settings : Settings) (now : Instant) (timeout : Int)
    (capacity : Nat) (codes : List String) (steps : List Json) (sweep flush : List (String × Json))
    (hrepo : settings.robotsRepo = true) (hsweep : Request.text (.object sweep) "op" = "sweep")
    (hflush : Request.text (.object flush) "op" = "flush")
    (hdrop : (afterSteps (Hub.fresh settings now timeout capacity codes)
      (steps ++ [.object sweep, .object flush])).dropped = 0) :
    let h := afterSteps (Hub.fresh settings now timeout capacity codes)
      (steps ++ [.object sweep, .object flush])
    ∀ rows, h.store.listRobots = .ok rows → ∀ row ∈ rows, row.online = true →
      h.isOnline row.code = true := by
  intro h rows hlist row hrow honline
  have hfresh := writeReady_fresh settings now timeout capacity codes
  have hk := keepsBacking_afterSteps hfresh hrepo (steps ++ [.object sweep, .object flush])
  have hready : h.WriteReady := writeReady_afterSteps hfresh _
  -- the store answered the listing, so it is open and listed its rows
  have hopen : h.store.closed = false := by
    cases hc : h.store.closed <;> simp_all [Store.listRobots, Store.guard]
  have hvalues : h.store.robots.values = rows := by
    simpa [Store.listRobots, Store.guard, hopen] using hlist
  -- a fresh hub holds no row and has dropped nothing, so every online row is backed at the end
  have hzero : (Hub.fresh settings now timeout capacity codes).dropped = 0 := rfl
  have hbacked : h.OnlineBacked :=
    hk.backed hopen (hdrop.trans hzero.symm) fun _ _ hr => by simp [Hub.fresh] at hr
  obtain ⟨⟨code, r⟩, hmem, rfl⟩ := List.mem_map.1 (treeMap_values_eq _ ▸ hvalues ▸ hrow)
  rw [Std.TreeMap.mem_toList_iff_getElem?_eq_some] at hmem
  rw [hready.keyed.robot code r hmem]
  -- the last two steps are the sweep and the flush
  have hlast : h = (afterSteps (Hub.fresh settings now timeout capacity codes)
      steps).sweep.2.takeOutbox.2.flush.takeOutbox.2 := by
    simp only [h, afterSteps, List.foldl_append, List.foldl_cons, List.foldl_nil, nextHub_object,
      runStep, hsweep, hflush]
  have hb : h.Backs code := hbacked code r hmem honline
  rw [hlast] at hb ⊢
  exact Hub.isOnline_of_backs_after_sweep_flush _ hb

/-- A robot reports once; right after a sweep and a flush the store lists its row as online, and
the robot is online. -/
theorem online_row_after_heartbeat_sweep_flush :
    let steps : List Json := [.object [("op", .string "route"),
      ("topic", .string "robot/R1/heartbeat"), ("payload", .string "")]]
    let h := afterSteps (Hub.fresh {} (Instant.ofCivil 2024 1 1 0 0 0 0) 30000000000 5000 [])
      (steps ++ [.object [("op", .string "sweep")], .object [("op", .string "flush")]])
    h.dropped = 0 ∧ h.store.closed = false ∧
      h.store.robots.values.map (fun row => (row.code, row.online)) = [("R1", true)] ∧
      ∀ rows, h.store.listRobots = .ok rows → ∀ row ∈ rows, row.online = true →
        h.isOnline row.code = true := by
  intro steps h
  have hdrop : h.dropped = 0 := by decide +kernel
  refine ⟨hdrop, by decide +kernel, by decide +kernel, ?_⟩
  exact online_rows_alive_after_sweep_flush _ _ _ _ _ steps _ _ rfl rfl rfl hdrop

end Console

end DeliveryFleet
