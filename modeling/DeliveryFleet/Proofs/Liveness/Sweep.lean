import DeliveryFleet.Proofs.Liveness.Sightings

/-!
# Sweeps

A sweep (`Tracker.sweep`) forgets exactly the robots whose sightings are stale at its instant
(`Tracker.mem_sweep_evicted`), each once, and keeps every other sighting as it was
(`Tracker.sweep_entry_of_not_mem`). A sighting that was never seen counts from the zero instant,
so it is stale once a timeout has passed since then (`Tracker.stale_of_never_seen`). A stale
sighting is not alive, so a sweep changes no robot's liveness at its instant
(`Tracker.isAlive_sweep`).
-/

namespace DeliveryFleet

namespace Tracker

variable (t : Tracker) (now : Instant) {robot : String}

@[simp] theorem sweep_stale : (t.sweep now).1.stale = t.stale := rfl

/-- A sweep forgets exactly the robots whose sightings are stale. -/
theorem mem_sweep_evicted :
    robot ∈ (t.sweep now).2.1 ↔ ∃ e, t.entries[robot]? = some e ∧ t.stale e now = true := by
  rw [sweep, Std.TreeMap.mem_keys, Std.TreeMap.mem_iff_isSome_getElem?,
    Std.TreeMap.getElem?_filter']
  cases t.entries[robot]? <;> simp

/-- A sweep names each robot it forgets once. -/
theorem sweep_evicted_nodup : (t.sweep now).2.1.Nodup := Std.TreeMap.nodup_keys

theorem sweep_entry_of_mem (hm : robot ∈ (t.sweep now).2.1) : (t.sweep now).1.entries[robot]? = none := by
  obtain ⟨e, he, hs⟩ := (mem_sweep_evicted t now).1 hm
  simp [sweep_entry, he, hs, Option.filter]

/-- A sweep keeps the sighting of every robot it does not forget. -/
theorem sweep_entry_of_not_mem (hm : robot ∉ (t.sweep now).2.1) :
    (t.sweep now).1.entries[robot]? = t.entries[robot]? := by
  rw [sweep_entry]
  cases he : t.entries[robot]? with
  | none => rfl
  | some e =>
    have hs : t.stale e now = false := by simpa [mem_sweep_evicted, he] using hm
    simp [hs, Option.filter]

/-- A sighting never seen is stale once the timeout, within the 64-bit range, has passed since
the zero instant. -/
theorem stale_of_never_seen {e : Sighting} (hzero : e.lastSeen = Instant.zero)
    (htimeout : t.timeout ≤ int64Max) (hpast : t.timeout ≤ now.nanos - Instant.zero.nanos) :
    t.stale e now = true := by
  simp only [stale, Instant.since, Duration.clamp, hzero, decide_eq_true_eq]
  -- the distance held to the range is still at least the timeout
  have hlow : t.timeout ≤ min int64Max (now.nanos - Instant.zero.nanos) :=
    Int.le_min.2 ⟨htimeout, hpast⟩
  exact Int.le_trans hlow (Int.le_max_right _ _)

/-- A sweep changes no robot's liveness at its instant: the sightings it forgets are stale, so not
alive. -/
theorem isAlive_sweep : (t.sweep now).1.isAlive robot now = t.isAlive robot now := by
  unfold isAlive
  rw [Std.TreeMap.get?_eq_getElem?, Std.TreeMap.get?_eq_getElem?, sweep_entry]
  cases t.entries[robot]? with
  | none => rfl
  | some e => cases hs : t.stale e now <;> simp [hs, aliveAt, Option.filter]

end Tracker

end DeliveryFleet
