import DeliveryFleet.Liveness.Tracker

/-!
# Sightings and the liveness log

A robot's liveness log lists, in order, what the fleet was told about the robot: each message
accepted from it marks it seen at the clock of the moment (`LivenessEvent.seen`), and each time it
is taken offline, by name, with every robot, or by its own heartbeat, it is gone
(`LivenessEvent.gone`).

The tracker agrees with a robot's log (`Tracker.Agrees`) when a sighting it flags alive is the
log's last event: the robot was last marked seen at the instant of the sighting, and not taken
offline since. Marking the robot seen makes the tracker agree with the log that ends in that
sighting, and taking it offline makes it agree with any log, since no sighting is flagged alive
then; every other operation of the tracker keeps agreement, forgetting a stale sighting included.

A tracker that agrees with a robot's log and finds the robot alive has its last event a sighting
less than the timeout ago (`Tracker.Agrees.recent`), while the timeout is a 64-bit duration: the
tracker measures the time since a sighting held to that range.
-/

namespace DeliveryFleet

/-- What the fleet was told about a robot's liveness. -/
inductive LivenessEvent where
  /-- A message accepted from the robot marked it seen at an instant. -/
  | seen (time : Instant)
  /-- The robot was taken offline. -/
  | gone
  deriving Repr, DecidableEq

/-- A duration held to the 64-bit range that is below a 64-bit bound was below it before. -/
theorem Instant.sub_lt_of_since_lt {t u : Instant} {d : Int} (hlt : t.since u < d)
    (hd : d ≤ int64Max) : t.nanos - u.nanos < d := by
  simp only [since, Duration.clamp] at hlt
  -- held to the range, a duration above it would be the range's top, which is not below `d`
  by_cases hup : t.nanos - u.nanos ≤ int64Max
  · rw [Int.min_eq_right hup] at hlt
    exact Int.lt_of_le_of_lt (Int.le_max_right _ _) hlt
  · rw [Int.min_eq_left (Int.le_of_lt (Int.lt_of_not_ge hup))] at hlt
    have := Int.le_max_right int64Min int64Max
    omega

namespace Tracker

variable (t : Tracker) {robot r : String} {log : List LivenessEvent}

/-! ## What each operation does to a robot's sighting -/

@[simp] theorem markSeen_timeout (now : Instant) : (t.markSeen r now).timeout = t.timeout := rfl

@[simp] theorem setSelfReported_timeout (f : Bool) : (t.setSelfReported r f).timeout = t.timeout :=
  rfl

@[simp] theorem markOffline_timeout : (t.markOffline r).1.timeout = t.timeout := by
  unfold markOffline
  split <;> rfl

@[simp] theorem markAllOffline_timeout : t.markAllOffline.1.timeout = t.timeout := rfl

@[simp] theorem sweep_timeout (now : Instant) : (t.sweep now).1.timeout = t.timeout := rfl

theorem markSeen_entry_self (now : Instant) :
    (t.markSeen robot now).entries[robot]? =
      some { (t.entries[robot]?.getD ⟨now, true, true⟩) with lastSeen := now, alive := true } := by
  simp [markSeen]

theorem markSeen_entry_ne (hr : r ≠ robot) (now : Instant) :
    (t.markSeen r now).entries[robot]? = t.entries[robot]? := by
  simp [markSeen, Std.TreeMap.getElem?_insert, hr]

/-- Setting the self-reported flag keeps whether a sighting is flagged alive and when it was last
seen; a sighting it creates is not flagged alive. -/
theorem setSelfReported_entry (f : Bool) :
    (t.setSelfReported r f).entries[robot]? =
      if r = robot then some { (t.entries[robot]?.getD ⟨Instant.zero, false, false⟩) with
        selfReported := f }
      else t.entries[robot]? := by
  by_cases hr : r = robot
  · subst hr
    simp [setSelfReported]
  · simp [setSelfReported, Std.TreeMap.getElem?_insert, hr]

theorem markOffline_entry :
    (t.markOffline r).1.entries[robot]? =
      if r = robot then t.entries[robot]?.map fun e => { e with alive := false }
      else t.entries[robot]? := by
  unfold markOffline
  split
  · rename_i e he
    rw [Std.TreeMap.get?_eq_getElem?] at he
    by_cases hr : r = robot
    · subst hr
      simp [he]
    · simp [Std.TreeMap.getElem?_insert, hr]
  · rename_i he
    rw [Std.TreeMap.get?_eq_getElem?] at he
    by_cases hr : r = robot
    · subst hr
      simp [he]
    · simp [hr]

theorem markAllOffline_entry :
    t.markAllOffline.1.entries[robot]? = t.entries[robot]?.map fun e => { e with alive := false } := by
  simp [markAllOffline, Std.TreeMap.getElem?_map]

theorem sweep_entry (now : Instant) :
    (t.sweep now).1.entries[robot]? = t.entries[robot]?.filter fun e => !t.stale e now := by
  simp [sweep]

/-! ## Agreement with the log -/

/-- The tracker agrees with a robot's liveness log: a sighting of the robot flagged alive was last
seen at the instant of the log's last event, which is a sighting. -/
def Agrees (t : Tracker) (robot : String) (log : List LivenessEvent) : Prop :=
  ∀ e, t.entries[robot]? = some e → e.alive = true → log.getLast? = some (.seen e.lastSeen)

/-- A robot the tracker has no sighting of agrees with the empty log. -/
theorem agrees_nil {t : Tracker} (hnone : t.entries[robot]? = none) : t.Agrees robot [] := by
  intro e he
  rw [hnone] at he
  cases he

/-- Marking a robot seen makes the tracker agree with any log that ends in that sighting. -/
theorem agrees_markSeen_self (now : Instant) (log : List LivenessEvent) :
    (t.markSeen robot now).Agrees robot (log ++ [.seen now]) := by
  intro e he _
  rw [markSeen_entry_self] at he
  cases he
  simp

/-- Taking a robot offline makes the tracker agree with any log: no sighting of it is flagged
alive. -/
theorem agrees_markOffline_self (log : List LivenessEvent) :
    (t.markOffline robot).1.Agrees robot log := by
  intro e he halive
  simp only [markOffline_entry, if_true, Option.map_eq_some_iff] at he
  obtain ⟨_, _, rfl⟩ := he
  cases halive

theorem agrees_markAllOffline (log : List LivenessEvent) : t.markAllOffline.1.Agrees robot log := by
  intro e he halive
  simp only [markAllOffline_entry, Option.map_eq_some_iff] at he
  obtain ⟨_, _, rfl⟩ := he
  cases halive

namespace Agrees

variable {t}

theorem markSeen_ne (hag : t.Agrees robot log) (hr : r ≠ robot) (now : Instant) :
    (t.markSeen r now).Agrees robot log := by
  intro e he
  rw [markSeen_entry_ne t hr] at he
  exact hag e he

theorem markOffline_ne (hag : t.Agrees robot log) (hr : r ≠ robot) :
    (t.markOffline r).1.Agrees robot log := by
  intro e he
  rw [markOffline_entry, if_neg hr] at he
  exact hag e he

/-- Marking a robot seen adds the sighting to its own log, and keeps every other robot's
agreement. -/
theorem markSeen (hag : t.Agrees robot log) (r : String) (now : Instant) :
    (t.markSeen r now).Agrees robot (log ++ if r = robot then [.seen now] else []) := by
  by_cases hr : r = robot
  · subst hr
    simpa using agrees_markSeen_self t now log
  · simpa [hr] using hag.markSeen_ne hr now

/-- Taking a robot offline adds `gone` to its own log, and keeps every other robot's agreement. -/
theorem markOffline (hag : t.Agrees robot log) (r : String) :
    (t.markOffline r).1.Agrees robot (log ++ if r = robot then [.gone] else []) := by
  by_cases hr : r = robot
  · subst hr
    exact agrees_markOffline_self t _
  · simpa [hr] using hag.markOffline_ne hr

/-- The self-reported flag is no part of agreement: a sighting it creates is not flagged alive,
and one it changes keeps its alive flag and when it was last seen. -/
theorem setSelfReported (hag : t.Agrees robot log) (f : Bool) :
    (t.setSelfReported r f).Agrees robot log := by
  intro e he halive
  rw [setSelfReported_entry] at he
  split at he
  · cases hold : t.entries[robot]? with
    | none =>
      rw [hold] at he
      cases he
      cases halive
    | some old =>
      rw [hold] at he
      cases he
      exact hag old hold halive
  · exact hag e he halive

/-- Forgetting stale sightings keeps agreement: a sighting is kept as it was, or forgotten. -/
theorem sweep (hag : t.Agrees robot log) (now : Instant) : (t.sweep now).1.Agrees robot log := by
  intro e he
  rw [sweep_entry] at he
  exact hag e (Option.eq_some_of_filter_eq_some he)

/-- A robot alive now, for a tracker agreeing with its log, was last seen less than the timeout
ago, and not taken offline since. -/
theorem recent (hag : t.Agrees robot log) (htimeout : t.timeout ≤ int64Max) {now : Instant}
    (halive : t.isAlive robot now = true) :
    ∃ s, log.getLast? = some (.seen s) ∧ now.nanos - s.nanos < t.timeout := by
  unfold isAlive at halive
  split at halive
  · rename_i e he
    simp only [aliveAt, stale, Bool.and_eq_true, Bool.not_eq_true', decide_eq_false_iff_not,
      Int.not_le] at halive
    obtain ⟨⟨halive, -⟩, hfresh⟩ := halive
    exact ⟨e.lastSeen, hag e (by simpa using he) halive,
      Instant.sub_lt_of_since_lt hfresh htimeout⟩
  · cases halive

end Agrees

end Tracker

end DeliveryFleet
