import Mathlib
import DeliveryFleet.Proofs.Liveness.Sweep

/-!
# Staleness by the exact age

The tracker measures a sighting's age with `Instant.since`, which holds the distance to the
signed 64-bit range. For a timeout inside that range the holding never changes the verdict: a
sighting is stale exactly when its exact age, as an unbounded integer, has reached the timeout
(`Tracker.stale_iff`). Above the range both the held and the exact age reach every such timeout,
and below it neither reaches a positive one (`Duration.le_clamp_iff`).

So a robot reported alive was seen less than a timeout ago (`Tracker.age_lt_of_isAlive`), and a
sweep forgets a sighting that was never seen exactly when the clock is a timeout past the zero
instant (`Tracker.mem_sweep_evicted_of_never_seen`). A clock closer to the zero instant than
that, or before it, keeps such a sighting (`Tracker.sweep_keeps_never_seen_at_zero`).
-/

namespace DeliveryFleet

/-- A bound strictly inside the signed 64-bit range is reached by a duration held to the range
exactly when the duration itself reaches it. -/
theorem Duration.le_clamp_iff {d x : Int} (hlo : int64Min < d) (hhi : d ≤ int64Max) :
    d ≤ Duration.clamp x ↔ d ≤ x := by
  unfold Duration.clamp int64Min int64Max at *
  omega

namespace Tracker

variable (t : Tracker) {robot : String} {e : Sighting} {now : Instant}

section Timeout

variable {t} (hpos : 0 < t.timeout) (hmax : t.timeout ≤ int64Max)
include hpos hmax

/-- A sighting is stale exactly when its exact age has reached the timeout. -/
theorem stale_iff : t.stale e now = true ↔ t.timeout ≤ now.nanos - e.lastSeen.nanos := by
  have hlo : int64Min < t.timeout := Int.lt_trans (by decide) hpos
  simp only [stale, Instant.since, ge_iff_le, decide_eq_true_eq]
  exact Duration.le_clamp_iff hlo hmax

/-- A robot reported alive has a sighting less than a timeout old. -/
theorem age_lt_of_isAlive (halive : t.isAlive robot now = true) :
    ∃ e, t.entries[robot]? = some e ∧ now.nanos - e.lastSeen.nanos < t.timeout := by
  unfold isAlive at halive
  rw [Std.TreeMap.get?_eq_getElem?] at halive
  rcases he : t.entries[robot]? with _ | e
  · simp [he] at halive
  · -- alive means flagged and not stale, and not stale means younger than the timeout
    have hfresh : t.stale e now = false := by
      simp only [he, aliveAt, Bool.and_eq_true, Bool.not_eq_true'] at halive
      exact halive.2
    refine ⟨e, rfl, Int.lt_of_not_ge fun hold => ?_⟩
    simp [(stale_iff hpos hmax).2 hold] at hfresh

/-- A sweep forgets a sighting that was never seen exactly when the clock is a timeout past the
zero instant. -/
theorem mem_sweep_evicted_of_never_seen (he : t.entries[robot]? = some e)
    (hzero : e.lastSeen = Instant.zero) :
    robot ∈ (t.sweep now).2.1 ↔ t.timeout ≤ now.nanos - Instant.zero.nanos := by
  rw [mem_sweep_evicted, ← hzero, ← stale_iff hpos hmax]
  constructor
  · rintro ⟨e', he', hstale⟩
    rw [he, Option.some.injEq] at he'
    rwa [he']
  · intro hstale
    exact ⟨e, he, hstale⟩

end Timeout

/-- For every timeout in `(0, 2^63 - 1]` nanoseconds: a sighting is stale exactly when its exact
age has reached the timeout, whatever its last sighting and the clock; a robot reported alive was
seen less than a timeout ago; and a sweep forgets a sighting that was never seen exactly when the
clock is a timeout past the zero instant. -/
theorem stale_by_exact_age (t : Tracker) (hpos : 0 < t.timeout) (hmax : t.timeout ≤ int64Max) :
    (∀ e now, t.stale e now = true ↔ t.timeout ≤ now.nanos - e.lastSeen.nanos) ∧
    (∀ robot now, t.isAlive robot now = true →
      ∃ e, t.entries[robot]? = some e ∧ now.nanos - e.lastSeen.nanos < t.timeout) ∧
    (∀ robot e now, t.entries[robot]? = some e → e.lastSeen = Instant.zero →
      (robot ∈ (t.sweep now).2.1 ↔ t.timeout ≤ now.nanos - Instant.zero.nanos)) :=
  ⟨fun _ _ => stale_iff hpos hmax, fun _ _ => age_lt_of_isAlive hpos hmax,
    fun _ _ _ he hzero => mem_sweep_evicted_of_never_seen hpos hmax he hzero⟩

/-- A tracker under the default 30 s timeout whose one sighting, of `R1`, a heartbeat saying it
is gone made: it was never seen. -/
def goodbyeTracker : Tracker := (Tracker.empty 30000000000).setSelfReported "R1" false

theorem goodbyeTracker_timeout : 0 < goodbyeTracker.timeout ∧ goodbyeTracker.timeout ≤ int64Max :=
  ⟨by decide, by decide⟩

theorem goodbyeTracker_entry :
    goodbyeTracker.entries["R1"]? = some ⟨Instant.zero, false, false⟩ := by
  simp [goodbyeTracker, setSelfReported_entry, empty]

/-- The tracker a first heartbeat saying goodbye leaves. -/
theorem stale_by_exact_age_after_goodbye :
    0 < goodbyeTracker.timeout ∧ goodbyeTracker.timeout ≤ int64Max ∧
    (∀ e now, goodbyeTracker.stale e now = true ↔
      goodbyeTracker.timeout ≤ now.nanos - e.lastSeen.nanos) ∧
    (∀ robot now, goodbyeTracker.isAlive robot now = true →
      ∃ e, goodbyeTracker.entries[robot]? = some e ∧
        now.nanos - e.lastSeen.nanos < goodbyeTracker.timeout) ∧
    (∀ robot e now, goodbyeTracker.entries[robot]? = some e → e.lastSeen = Instant.zero →
      (robot ∈ (goodbyeTracker.sweep now).2.1 ↔
        goodbyeTracker.timeout ≤ now.nanos - Instant.zero.nanos)) :=
  ⟨goodbyeTracker_timeout.1, goodbyeTracker_timeout.2,
    stale_by_exact_age goodbyeTracker goodbyeTracker_timeout.1 goodbyeTracker_timeout.2⟩

/-- With the clock at the zero instant, a sweep keeps a sighting that a heartbeat made and that
was never seen. -/
theorem sweep_keeps_never_seen_at_zero :
    ¬ ∀ (t : Tracker) (robot : String) (e : Sighting) (now : Instant),
      0 < t.timeout → t.timeout ≤ int64Max → t.entries[robot]? = some e →
        e.lastSeen = Instant.zero → robot ∈ (t.sweep now).2.1 := by
  intro hclaim
  obtain ⟨hpos, hmax⟩ := goodbyeTracker_timeout
  have hevicted := hclaim goodbyeTracker "R1" _ Instant.zero hpos hmax goodbyeTracker_entry rfl
  -- a never-seen sighting is forgotten only a timeout past the zero instant
  rw [mem_sweep_evicted_of_never_seen hpos hmax goodbyeTracker_entry rfl] at hevicted
  exact absurd hevicted (by decide)

end Tracker

end DeliveryFleet
