import DeliveryFleet.Liveness.Tracker

/-!
# A sweep beside concurrent calls

A sweep does not run under the tracker's lock from start to end. Its read pass, under a read
lock, takes the robots whose sightings are stale at the sweep's instant as candidates and counts
the kept sightings alive then; this is `Tracker.sweep`'s selection. It then re-checks each
candidate in turn under the lock, reading the clock again: a candidate whose sighting is still
stale is forgotten, and one that was refreshed in between is kept and counted if alive. Every
robot forgotten is reported offline after the last re-check. The read pass walks the sightings in
no fixed order, and the re-checks take the candidates in the order it found them.

Between the read pass and each re-check, other calls on the tracker may land, each atomic under
the lock (`TrackerCall`); a call carries the clock reading it took itself. `Tracker.stagedSweepIn`
runs a sweep with the candidates in a given order and, for each candidate, the calls that land
before its re-check and the clock readings of that re-check (`Recheck`); `Tracker.stagedSweep`
takes them in the order of their ids.
-/

namespace DeliveryFleet

/-- A call on the tracker that may land while a sweep runs. -/
inductive TrackerCall where
  | markSeen (robot : String) (now : Instant)
  | setSelfReported (robot : String) (flag : Bool)
  | markOffline (robot : String)
  | markAllOffline
  deriving Repr, DecidableEq

/-- What a call leaves the tracker. -/
def TrackerCall.apply : TrackerCall → Tracker → Tracker
  | markSeen r now, t => t.markSeen r now
  | setSelfReported r f, t => t.setSelfReported r f
  | markOffline r, t => (t.markOffline r).1
  | markAllOffline, t => t.markAllOffline.1

/-- What comes before the re-check of a candidate: the calls that land, in order, and the two
clock readings of the re-check, for staleness and then for liveness. -/
structure Recheck where
  calls : List TrackerCall := []
  clock : Instant
  aliveClock : Instant := clock
  deriving Repr

namespace Tracker

/-- The tracker once calls have landed, in order. -/
def land (t : Tracker) (calls : List TrackerCall) : Tracker :=
  calls.foldl (fun t c => c.apply t) t

/-- One re-check: the calls land, then the candidate's sighting is forgotten if it is stale at the
re-check's clock. Gives the tracker, whether the candidate was forgotten, and whether it counts as
alive. -/
def recheck (t : Tracker) (robot : String) (s : Recheck) : Tracker × Bool × Bool :=
  let t := t.land s.calls
  match t.entries.get? robot with
  | some e =>
    if t.stale e s.clock then ({ t with entries := t.entries.erase robot }, true, false)
    else (t, false, t.aliveAt e s.aliveClock)
  | none => (t, false, false)

/-- The re-checks of candidates in order, `stage` saying what comes before each: the tracker they
leave, the robots forgotten, in order, and how many kept robots count as alive. -/
def rechecks (stage : String → Recheck) : Tracker → List String → Tracker × List String × Nat
  | t, [] => (t, [], 0)
  | t, robot :: rest =>
    let first := t.recheck robot (stage robot)
    let after := rechecks stage first.1 rest
    (after.1, if first.2.1 then robot :: after.2.1 else after.2.1,
      (if first.2.2 then 1 else 0) + after.2.2)

/-- A sweep whose read pass sees the tracker at `now` and hands its candidates to the re-checks in
the order `order`: the tracker it leaves, the robots it forgot, which are the robots it reports
offline, and how many robots it counts as alive. The read pass walks the sightings in no fixed
order, so `order` is any arrangement of the candidates. -/
def stagedSweepIn (t : Tracker) (now : Instant) (order : List String) (stage : String → Recheck) :
    Tracker × List String × Nat :=
  let checked := rechecks stage t order
  (checked.1, checked.2.1, (t.sweep now).2.2 + checked.2.2)

/-- A sweep whose re-checks take the candidates in the order of their ids. -/
def stagedSweep (t : Tracker) (now : Instant) (stage : String → Recheck) :
    Tracker × List String × Nat :=
  t.stagedSweepIn now (t.sweep now).2.1 stage

end Tracker

end DeliveryFleet
