import Mathlib.Data.List.TakeWhile
import DeliveryFleet.Proofs.Liveness.Sweep
import DeliveryFleet.Liveness.StagedSweep
import DeliveryFleet.Proofs.Console.Commands
import DeliveryFleet.Proofs.Session.Frame

/-!
# Sweeps beside concurrent calls

A sweep forgets a candidate exactly when, at the candidate's re-check, the sighting the calls
landed so far have left is stale at the re-check's clock (`Tracker.mem_rechecks_forgotten`). The
robots it forgets come from its candidates in order, so each is reported offline once
(`Tracker.rechecks_forgotten_sublist`).

A robot's sighting depends only on the calls naming it, or every robot: re-checks of other
candidates do not touch it, and once a call marked it seen it was last seen at the instant of one
such call (`Tracker.SeenBy`). So a candidate that a call marked seen after the read pass is
kept, as long as its re-check comes less than the timeout after that call
(`Tracker.not_mem_stagedSweepIn_of_seen`).

The read pass hands over its candidates in no fixed order, and each of these holds for every
order of them (`Tracker.mem_stagedSweepIn`). With nothing landing and one clock reading, the
re-checks forget every candidate, and the sweep is the one-step `Tracker.sweep`
(`Tracker.stagedSweepIn_quiet`) that the hub runs, reporting offline each robot it forgot
(`Hub.sweep_offline`). `Hub.sweep_forgets_stale_at_recheck` gathers these.
-/

namespace DeliveryFleet

@[simp] theorem TrackerCall.apply_timeout (c : TrackerCall) (t : Tracker) :
    (c.apply t).timeout = t.timeout := by
  cases c <;> simp [TrackerCall.apply]

namespace Tracker

variable {t : Tracker} {robot r : String} {stage : String → Recheck}

@[simp] theorem land_nil : t.land [] = t := rfl

@[simp] theorem land_cons (c : TrackerCall) (cs : List TrackerCall) :
    t.land (c :: cs) = (c.apply t).land cs := rfl

@[simp] theorem land_timeout (calls : List TrackerCall) : (t.land calls).timeout = t.timeout := by
  induction calls generalizing t with
  | nil => rfl
  | cons c cs ih => simp [ih]

/-! ## One re-check -/

/-- A re-check forgets its candidate exactly when the candidate's sighting, once the calls have
landed, is stale at the re-check's clock. -/
theorem recheck_forgets (s : Recheck) :
    (t.recheck robot s).2.1 = true ↔
      ∃ e, (t.land s.calls).entries[robot]? = some e ∧ (t.land s.calls).stale e s.clock = true := by
  simp only [recheck, Std.TreeMap.get?_eq_getElem?]
  cases (t.land s.calls).entries[robot]? with
  | none => simp
  | some e => by_cases hs : (t.land s.calls).stale e s.clock = true <;> simp [hs]

/-- A re-check leaves the tracker the calls left, without the candidate's sighting when it forgot
the candidate. -/
theorem recheck_tracker (s : Recheck) :
    (t.recheck r s).1 = if (t.recheck r s).2.1 then
      { t.land s.calls with entries := (t.land s.calls).entries.erase r } else t.land s.calls := by
  simp only [recheck, Std.TreeMap.get?_eq_getElem?]
  -- the sighting is named first: it stands on both sides, inside the condition too
  obtain ⟨o, ho⟩ : ∃ o, (t.land s.calls).entries[r]? = o := ⟨_, rfl⟩
  cases o with
  | none => simp [ho]
  | some e => by_cases hs : (t.land s.calls).stale e s.clock = true <;> simp [ho, hs]

/-- The re-check of another candidate touches a robot's sighting only through the calls that land
before it. -/
theorem recheck_entry_ne (hr : r ≠ robot) (s : Recheck) :
    (t.recheck r s).1.entries[robot]? = (t.land s.calls).entries[robot]? := by
  rw [recheck_tracker]
  split <;> simp [Std.TreeMap.getElem?_erase, hr]

@[simp] theorem recheck_timeout (s : Recheck) : (t.recheck r s).1.timeout = t.timeout := by
  rw [recheck_tracker]
  split <;> simp

/-! ## The re-checks of all candidates -/

theorem rechecks_forgotten_cons (rest : List String) :
    (rechecks stage t (r :: rest)).2.1 =
      if (t.recheck r (stage r)).2.1 then r :: (rechecks stage (t.recheck r (stage r)).1 rest).2.1
      else (rechecks stage (t.recheck r (stage r)).1 rest).2.1 := rfl

@[simp] theorem rechecks_timeout (ids : List String) :
    (rechecks stage t ids).1.timeout = t.timeout := by
  induction ids generalizing t with
  | nil => rfl
  | cons r rest ih => exact (ih (t := (t.recheck r (stage r)).1)).trans (recheck_timeout _)

/-- The robots the re-checks forget are candidates, in the candidates' order. -/
theorem rechecks_forgotten_sublist (ids : List String) :
    List.Sublist (rechecks stage t ids).2.1 ids := by
  induction ids generalizing t with
  | nil => exact List.Sublist.slnil
  | cons r rest ih =>
    rw [rechecks_forgotten_cons]
    split
    · exact ih.cons_cons r
    · exact ih.cons r

/-- Among distinct candidates, the re-checks forget a robot exactly when it is a candidate and its
own re-check, after those of the candidates before it, forgets it. -/
theorem mem_rechecks_forgotten {ids : List String} (hnd : ids.Nodup) :
    robot ∈ (rechecks stage t ids).2.1 ↔ robot ∈ ids ∧
      ((rechecks stage t (ids.takeWhile (· ≠ robot))).1.recheck robot (stage robot)).2.1 = true := by
  induction ids generalizing t with
  | nil => simp [rechecks]
  | cons r rest ih =>
    have hrest : rest.Nodup := (List.nodup_cons.1 hnd).2
    rw [rechecks_forgotten_cons]
    by_cases hr : r = robot
    · -- the robot's own re-check comes first; the later ones never name it again
      subst hr
      have hnot : r ∉ (rechecks stage (t.recheck r (stage r)).1 rest).2.1 := fun hm =>
        (List.nodup_cons.1 hnd).1 ((rechecks_forgotten_sublist rest).subset hm)
      cases hf : (t.recheck r (stage r)).2.1 <;> simp [hf, hnot, rechecks]
    · have htake : (r :: rest).takeWhile (· ≠ robot) = r :: rest.takeWhile (· ≠ robot) := by
        simp [hr]
      rw [htake]
      have hne : robot ≠ r := fun h => hr h.symm
      split <;> (simp only [List.mem_cons, hne, false_or]; exact ih hrest)

/-! ## Calls marking a robot seen -/

/-- A call that does not mark a robot seen keeps when its sighting was last seen. -/
theorem lastSeen_apply {c : TrackerCall} (hc : ∀ m, c ≠ .markSeen robot m) {e : Sighting}
    (he : t.entries[robot]? = some e) :
    ∃ e', (c.apply t).entries[robot]? = some e' ∧ e'.lastSeen = e.lastSeen := by
  cases c with
  | markSeen r now =>
    have hr : r ≠ robot := fun h => hc now (by rw [h])
    exact ⟨e, (markSeen_entry_ne t hr now).trans he, rfl⟩
  | setSelfReported r f =>
    by_cases hr : r = robot
    · exact ⟨{ e with selfReported := f },
        by simp [TrackerCall.apply, setSelfReported_entry, hr, he], rfl⟩
    · exact ⟨e, by simp [TrackerCall.apply, setSelfReported_entry, hr, he], rfl⟩
  | markOffline r =>
    by_cases hr : r = robot
    · exact ⟨{ e with alive := false },
        by simp [TrackerCall.apply, markOffline_entry, hr, he], rfl⟩
    · exact ⟨e, by simp [TrackerCall.apply, markOffline_entry, hr, he], rfl⟩
  | markAllOffline =>
    exact ⟨{ e with alive := false }, by simp [TrackerCall.apply, markAllOffline_entry, he], rfl⟩

/-- When one of `calls` marks `robot` seen, the robot's sighting was last seen at the instant of
one of them. -/
def SeenBy (robot : String) (calls : List TrackerCall) (t : Tracker) : Prop :=
  ∀ m, .markSeen robot m ∈ calls →
    ∃ m' e, .markSeen robot m' ∈ calls ∧ t.entries[robot]? = some e ∧ e.lastSeen = m'

theorem seenBy_nil (t : Tracker) : t.SeenBy robot [] := fun _ hm => absurd hm List.not_mem_nil

theorem SeenBy.of_entry {t' : Tracker} {calls : List TrackerCall} (hs : t.SeenBy robot calls)
    (he : t'.entries[robot]? = t.entries[robot]?) : t'.SeenBy robot calls := by
  intro m hm
  obtain ⟨m', e, hm', he', hl⟩ := hs m hm
  exact ⟨m', e, hm', he.trans he', hl⟩

/-- A call keeps a sighting that earlier calls marked seen, or marks it seen itself. -/
theorem SeenBy.apply {calls : List TrackerCall} (hs : t.SeenBy robot calls) (c : TrackerCall) :
    (c.apply t).SeenBy robot (calls ++ [c]) := by
  intro m hm
  by_cases hc : ∃ m₀, c = .markSeen robot m₀
  · obtain ⟨m₀, rfl⟩ := hc
    exact ⟨m₀, _, by simp, markSeen_entry_self t m₀, rfl⟩
  · simp only [not_exists] at hc
    have hm' : TrackerCall.markSeen robot m ∈ calls := by
      simpa [Ne.symm (hc m)] using hm
    obtain ⟨m', e, hmem, he, hl⟩ := hs m hm'
    obtain ⟨e', he', hl'⟩ := lastSeen_apply hc he
    exact ⟨m', e', List.mem_append_left _ hmem, he', hl'.trans hl⟩

theorem SeenBy.land {calls : List TrackerCall} (hs : t.SeenBy robot calls) (cs : List TrackerCall) :
    (t.land cs).SeenBy robot (calls ++ cs) := by
  induction cs generalizing t calls with
  | nil => simpa using hs
  | cons c cs ih => simpa using ih (hs.apply c)

/-- The re-checks of other candidates keep a sighting that earlier calls marked seen, or mark it
seen through the calls landing before them. -/
theorem SeenBy.rechecks {calls : List TrackerCall} (hs : t.SeenBy robot calls)
    (stage : String → Recheck) {ids : List String} (hnot : robot ∉ ids) :
    (rechecks stage t ids).1.SeenBy robot (calls ++ ids.flatMap fun r => (stage r).calls) := by
  induction ids generalizing t calls with
  | nil => simpa [rechecks] using hs
  | cons r rest ih =>
    have hr : r ≠ robot := fun h => hnot (h ▸ List.mem_cons_self)
    have hfirst := (hs.land (stage r).calls).of_entry (recheck_entry_ne hr (stage r))
    rw [List.flatMap_cons, ← List.append_assoc]
    exact ih hfirst (fun h => hnot (List.mem_cons_of_mem r h))

/-! ## A sweep beside concurrent calls -/

/-- The calls that land between a sweep's read pass and the re-check of `robot`: those before the
re-checks of the candidates ahead of it, then those before its own. -/
def callsBefore (stage : String → Recheck) (candidates : List String) (robot : String) :
    List TrackerCall :=
  (candidates.takeWhile (· ≠ robot)).flatMap (fun r => (stage r).calls) ++ (stage robot).calls

/-- The tracker the re-check of `robot` sees, once the calls before it have landed. -/
def atRecheck (t : Tracker) (stage : String → Recheck) (candidates : List String) (robot : String) :
    Tracker :=
  (rechecks stage t (candidates.takeWhile (· ≠ robot))).1.land (stage robot).calls

theorem seenBy_atRecheck (candidates : List String) :
    (t.atRecheck stage candidates robot).SeenBy robot (callsBefore stage candidates robot) := by
  have hnot : robot ∉ candidates.takeWhile (· ≠ robot) := fun hm => by
    simpa using List.mem_takeWhile_imp hm
  simpa [atRecheck, callsBefore] using ((seenBy_nil t).rechecks stage hnot).land
    (stage robot).calls

@[simp] theorem atRecheck_timeout (candidates : List String) :
    (t.atRecheck stage candidates robot).timeout = t.timeout := by
  simp [atRecheck]

variable {order : List String} {now : Instant}

/-- The candidates of a read pass, in any order, are distinct. -/
theorem nodup_of_perm_candidates (hperm : order.Perm (t.sweep now).2.1) : order.Nodup :=
  hperm.nodup_iff.2 (sweep_evicted_nodup t now)

/-- A sweep forgets a robot exactly when it was a candidate of the read pass and its sighting, at
its re-check, is stale at the re-check's clock; in whatever order the candidates come. -/
theorem mem_stagedSweepIn (hperm : order.Perm (t.sweep now).2.1) :
    robot ∈ (t.stagedSweepIn now order stage).2.1 ↔ robot ∈ (t.sweep now).2.1 ∧
      ∃ e, (t.atRecheck stage order robot).entries[robot]? = some e ∧
        (t.atRecheck stage order robot).stale e (stage robot).clock = true :=
  (mem_rechecks_forgotten (nodup_of_perm_candidates hperm)).trans
    (and_congr hperm.mem_iff (recheck_forgets _))

/-- A sweep forgets, and so reports offline, each robot once. -/
theorem stagedSweepIn_nodup (hperm : order.Perm (t.sweep now).2.1) :
    (t.stagedSweepIn now order stage).2.1.Nodup :=
  (rechecks_forgotten_sublist _).nodup (nodup_of_perm_candidates hperm)

/-- A sweep keeps a candidate that a call marked seen after the read pass, when the re-check comes
less than the timeout after each such call. -/
theorem not_mem_stagedSweepIn_of_seen (hperm : order.Perm (t.sweep now).2.1) {m : Instant}
    (hm : .markSeen robot m ∈ callsBefore stage order robot)
    (hfresh : ∀ m', .markSeen robot m' ∈ callsBefore stage order robot →
      (stage robot).clock.since m' < t.timeout) :
    robot ∉ (t.stagedSweepIn now order stage).2.1 := by
  intro hmem
  obtain ⟨-, e, he, hstale⟩ := (mem_stagedSweepIn hperm).1 hmem
  have hseen : (t.atRecheck stage order robot).SeenBy robot (callsBefore stage order robot) :=
    seenBy_atRecheck _
  obtain ⟨m', e', hm', he', hl⟩ := hseen m hm
  rw [he] at he'
  cases he'
  have hlt := hfresh m' hm'
  simp only [stale, atRecheck_timeout, hl, decide_eq_true_eq] at hstale
  omega

/-- With nothing landing and one clock reading, the re-checks forget every stale candidate. -/
theorem rechecks_quiet {now : Instant} {ids : List String} (hnd : ids.Nodup)
    (hstale : ∀ r ∈ ids, ∃ e, t.entries[r]? = some e ∧ t.stale e now = true) :
    (rechecks (fun _ => { clock := now }) t ids).2 = (ids, 0) ∧
      ∀ k, (rechecks (fun _ => { clock := now }) t ids).1.entries[k]? =
        if k ∈ ids then none else t.entries[k]? := by
  induction ids generalizing t with
  | nil => exact ⟨rfl, fun k => by simp [rechecks]⟩
  | cons r rest ih =>
    obtain ⟨hr, hrest⟩ := List.nodup_cons.1 hnd
    obtain ⟨e, he, hs⟩ := hstale r List.mem_cons_self
    have hfirst : t.recheck r { clock := now } =
        ({ t with entries := t.entries.erase r }, true, false) := by
      simp [recheck, Std.TreeMap.get?_eq_getElem?, he, hs]
    -- the later candidates' sightings are untouched by forgetting this one
    have hstale' : ∀ r' ∈ rest, ∃ e,
        ({ t with entries := t.entries.erase r } : Tracker).entries[r']? = some e ∧
          ({ t with entries := t.entries.erase r } : Tracker).stale e now = true := by
      intro r' hr'
      have hne : r ≠ r' := fun h => hr (h ▸ hr')
      simpa [Std.TreeMap.getElem?_erase, hne, stale] using hstale r' (List.mem_cons_of_mem r hr')
    obtain ⟨hres, hent⟩ := ih hrest hstale'
    simp only [rechecks, hfirst, if_true]
    refine ⟨by simp [hres], fun k => ?_⟩
    rw [hent k]
    by_cases hk : r = k
    · subst hk
      simp [hr]
    · by_cases hkr : k ∈ rest <;> simp [Std.TreeMap.getElem?_erase, hk, hkr, Ne.symm hk]

/-- With nothing landing and one clock reading, a sweep is the one-step sweep, whatever the order
of its candidates: it forgets them all, in that order, counts the same robots alive, and leaves
every sighting as that one does. -/
theorem stagedSweepIn_quiet (hperm : order.Perm (t.sweep now).2.1) :
    (t.stagedSweepIn now order fun _ => { clock := now }).2 = (order, (t.sweep now).2.2) ∧
      ∀ robot : String, (t.stagedSweepIn now order fun _ => { clock := now }).1.entries[robot]? =
        (t.sweep now).1.entries[robot]? := by
  obtain ⟨hres, hent⟩ := rechecks_quiet (t := t) (nodup_of_perm_candidates hperm)
    (fun _ hr => (mem_sweep_evicted t now).1 (hperm.subset hr))
  refine ⟨?_, fun robot => ?_⟩
  · simp [stagedSweepIn, hres]
  · simp only [stagedSweepIn, hent robot, hperm.mem_iff]
    split
    · rename_i hm
      exact (sweep_entry_of_mem t now hm).symm
    · rename_i hm
      exact (sweep_entry_of_not_mem t now hm).symm

end Tracker

namespace Hub

variable (h : Hub)

@[simp] theorem wentOffline_offline (robots : List String) :
    (h.wentOffline robots).outbox.offline = h.outbox.offline ++ robots := by
  unfold wentOffline
  induction robots generalizing h with
  | nil => simp
  | cons r rs ih => simp [ih]

/-- The hub reports offline the robots its sweep forgot, in order. -/
theorem sweep_offline : h.sweep.2.outbox.offline = h.outbox.offline ++ h.sweep.1 := by
  simp [sweep]

/-- What a sweep does, whatever the order in which its read pass hands over the candidates.
Beside any calls landing between its read pass and each re-check, it forgets exactly the
candidates of the read pass whose sighting is stale at the clock of their own re-check; never one
that a call marked seen after the read pass, when the re-check comes within the timeout of every
such call; and no robot twice. With nothing landing, it forgets every candidate, in their order,
and leaves every sighting as the hub's sweep does; in the order of their ids it forgets what the
hub's sweep forgets. The hub's sweep forgets exactly the sightings stale at the hub's instant,
never-seen ones among them, leaves every other sighting and every robot's liveness at that instant
as they were, and reports offline exactly the robots it forgot. -/
theorem sweep_forgets_stale_at_recheck :
    (∀ order, order.Perm (h.tracker.sweep h.now).2.1 → ∀ stage robot,
      robot ∈ (h.tracker.stagedSweepIn h.now order stage).2.1 ↔
        robot ∈ (h.tracker.sweep h.now).2.1 ∧
          ∃ e, (h.tracker.atRecheck stage order robot).entries[robot]? = some e ∧
            (h.tracker.atRecheck stage order robot).stale e (stage robot).clock = true) ∧
    (∀ order, order.Perm (h.tracker.sweep h.now).2.1 → ∀ stage robot m,
      .markSeen robot m ∈ Tracker.callsBefore stage order robot →
      (∀ m', .markSeen robot m' ∈ Tracker.callsBefore stage order robot →
        (stage robot).clock.since m' < h.tracker.timeout) →
      robot ∉ (h.tracker.stagedSweepIn h.now order stage).2.1) ∧
    (∀ order, order.Perm (h.tracker.sweep h.now).2.1 → ∀ stage,
      (h.tracker.stagedSweepIn h.now order stage).2.1.Nodup) ∧
    (∀ order, order.Perm (h.tracker.sweep h.now).2.1 →
      (h.tracker.stagedSweepIn h.now order fun _ => { clock := h.now }).2.1 = order ∧
        ∀ robot : String,
          (h.tracker.stagedSweepIn h.now order fun _ => { clock := h.now }).1.entries[robot]? =
            h.sweep.2.tracker.entries[robot]?) ∧
    (h.tracker.stagedSweep h.now fun _ => { clock := h.now }).2.1 = h.sweep.1 ∧
    (∀ robot, robot ∈ h.sweep.1 ↔
      ∃ e, h.tracker.entries[robot]? = some e ∧ h.tracker.stale e h.now = true) ∧
    (∀ robot e, h.tracker.entries[robot]? = some e → e.lastSeen = Instant.zero →
      h.tracker.timeout ≤ int64Max → h.tracker.timeout ≤ h.now.nanos - Instant.zero.nanos →
      robot ∈ h.sweep.1) ∧
    (∀ robot, robot ∉ h.sweep.1 → h.sweep.2.tracker.entries[robot]? = h.tracker.entries[robot]?) ∧
    (∀ robot, h.sweep.2.tracker.isAlive robot h.now = h.tracker.isAlive robot h.now) ∧
    h.sweep.2.outbox.offline = h.outbox.offline ++ h.sweep.1 := by
  refine ⟨fun order hperm stage robot => Tracker.mem_stagedSweepIn hperm,
    fun order hperm stage robot m hm hfresh =>
      Tracker.not_mem_stagedSweepIn_of_seen hperm hm hfresh,
    fun order hperm stage => Tracker.stagedSweepIn_nodup hperm,
    fun order hperm => ⟨congrArg Prod.fst (Tracker.stagedSweepIn_quiet hperm).1, fun robot => by
      rw [sweep_tracker]
      exact (Tracker.stagedSweepIn_quiet hperm).2 robot⟩,
    congrArg Prod.fst (Tracker.stagedSweepIn_quiet (List.Perm.refl _)).1,
    fun robot => Tracker.mem_sweep_evicted h.tracker h.now, ?_,
    fun robot hm => by rw [sweep_tracker]; exact Tracker.sweep_entry_of_not_mem _ _ hm,
    fun robot => by rw [sweep_tracker]; exact Tracker.isAlive_sweep _ _, sweep_offline h⟩
  -- a sighting never seen is stale once the clock is a timeout past the zero instant
  intro robot e he hzero htimeout hpast
  exact (Tracker.mem_sweep_evicted _ _).2
    ⟨e, he, Tracker.stale_of_never_seen _ _ hzero htimeout hpast⟩

/-- A hub a minute into 2024 whose tracker, with a 30 s timeout, last saw `R1` and `R2` at the
start of the year. -/
def sweepDemo : Hub :=
  { Hub.fresh { mailer := .absent, publisher := .absent }
      ((Instant.ofCivil 2024 1 1 0 0 0 0).add 60000000000) 30000000000 5000 [] with
    tracker := ((Tracker.empty 30000000000).markSeen "R1" (Instant.ofCivil 2024 1 1 0 0 0 0)).markSeen
      "R2" (Instant.ofCivil 2024 1 1 0 0 0 0) }

/-- The re-checks of the demo sweep, at the hub's instant: `R1` is seen again before its own. -/
def sweepDemoStage (r : String) : Recheck :=
  if r = "R1" then { calls := [.markSeen "R1" sweepDemo.now], clock := sweepDemo.now }
  else { clock := sweepDemo.now }

/-- Both robots are candidates of the read pass; handed over as `R2` then `R1`, with `R1` seen
again before its re-check, only `R2` is forgotten. -/
theorem sweep_keeps_robot_seen_before_recheck :
    (sweepDemo.tracker.sweep sweepDemo.now).2.1 = ["R1", "R2"] ∧
      ["R2", "R1"].Perm (sweepDemo.tracker.sweep sweepDemo.now).2.1 ∧
      (sweepDemo.tracker.stagedSweepIn sweepDemo.now ["R2", "R1"] sweepDemoStage).2.1 = ["R2"] ∧
      "R1" ∉ (sweepDemo.tracker.stagedSweepIn sweepDemo.now ["R2", "R1"] sweepDemoStage).2.1 := by
  have hcand : (sweepDemo.tracker.sweep sweepDemo.now).2.1 = ["R1", "R2"] := by decide +kernel
  have hperm : ["R2", "R1"].Perm (sweepDemo.tracker.sweep sweepDemo.now).2.1 := by
    rw [hcand]
    exact List.Perm.swap _ _ _
  have hcalls : Tracker.callsBefore sweepDemoStage ["R2", "R1"] "R1" =
      [.markSeen "R1" sweepDemo.now] := by decide +kernel
  refine ⟨hcand, hperm, by decide +kernel,
    (sweep_forgets_stale_at_recheck sweepDemo).2.1 _ hperm _ "R1" sweepDemo.now
      (by rw [hcalls]; exact List.mem_singleton_self _) ?_⟩
  intro m hm
  rw [hcalls, List.mem_singleton, TrackerCall.markSeen.injEq] at hm
  rw [hm.2]
  decide +kernel

end Hub

end DeliveryFleet
