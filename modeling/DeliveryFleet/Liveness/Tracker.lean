import Std.Data.TreeMap
import DeliveryFleet.Clock.Instant

/-!
# Liveness

The tracker keeps one `Sighting` per robot: when a message from it was last accepted, whether it
is flagged alive, and whether it reports itself alive. A robot is alive at an instant
(`Tracker.isAlive`) when it has a sighting, both flags are set, and its last sighting is not
stale: less than the timeout ago (`Tracker.stale`, measured by `Instant.since`).

A message marks its robot seen (`markSeen`); a robot seen for the first time reports itself alive.
A heartbeat sets the self-reported flag (`setSelfReported`), creating a sighting that was never
seen if need be. Marking offline clears the alive flag (`markOffline`, `markAllOffline`), and a
sweep (`sweep`) forgets every stale sighting. Each of these tells which robots went offline: those
whose alive flag it cleared, or whose sighting it forgot.
-/

namespace DeliveryFleet

/-- What the tracker knows about one robot. -/
structure Sighting where
  lastSeen : Instant
  alive : Bool
  selfReported : Bool
  deriving Repr, BEq, Inhabited

/-- Per-robot sightings and the timeout after which a sighting is stale. -/
structure Tracker where
  timeout : Int
  entries : Std.TreeMap String Sighting compare := {}

namespace Tracker

/-- A tracker with no sightings. -/
def empty (timeout : Int) : Tracker := ⟨timeout, {}⟩

/-- A sighting is stale once the timeout has passed since it. -/
def stale (t : Tracker) (e : Sighting) (now : Instant) : Bool := now.since e.lastSeen ≥ t.timeout

/-- A sighting stands for a live robot when both flags are set and it is not stale. -/
def aliveAt (t : Tracker) (e : Sighting) (now : Instant) : Bool :=
  e.alive && e.selfReported && !t.stale e now

/-- Records a message from a robot. -/
def markSeen (t : Tracker) (robot : String) (now : Instant) : Tracker :=
  let e := (t.entries.get? robot).getD ⟨now, true, true⟩
  { t with entries := t.entries.insert robot { e with lastSeen := now, alive := true } }

/-- Records what a robot reports about its own liveness. -/
def setSelfReported (t : Tracker) (robot : String) (flag : Bool) : Tracker :=
  let e := (t.entries.get? robot).getD ⟨Instant.zero, false, false⟩
  { t with entries := t.entries.insert robot { e with selfReported := flag } }

/-- Whether a robot is alive now. -/
def isAlive (t : Tracker) (robot : String) (now : Instant) : Bool :=
  match t.entries.get? robot with
  | some e => t.aliveAt e now
  | none => false

/-- When a robot was last seen, if it has a sighting that was ever seen. -/
def lastSeen? (t : Tracker) (robot : String) : Option Instant :=
  match t.entries.get? robot with
  | some e => if e.lastSeen.isZero then none else some e.lastSeen
  | none => none

/-- Clears a robot's alive flag; tells whether it was set. -/
def markOffline (t : Tracker) (robot : String) : Tracker × Bool :=
  match t.entries.get? robot with
  | some e => ({ t with entries := t.entries.insert robot { e with alive := false } }, e.alive)
  | none => (t, false)

/-- Clears every alive flag; gives the robots whose flag was set, in order. -/
def markAllOffline (t : Tracker) : Tracker × List String :=
  let ids := (t.entries.filter fun _ e => e.alive).keys
  ({ t with entries := t.entries.map fun _ e => { e with alive := false } }, ids)

/-- Forgets every stale sighting; gives the robots forgotten, in order, and how many robots are
alive among those kept. -/
def sweep (t : Tracker) (now : Instant) : Tracker × List String × Nat :=
  let evicted := (t.entries.filter fun _ e => t.stale e now).keys
  let kept := t.entries.filter fun _ e => !t.stale e now
  let alive := (kept.filter fun _ e => t.aliveAt e now).size
  ({ t with entries := kept }, evicted, alive)

/-- How many robots have a sighting. -/
def size (t : Tracker) : Nat := t.entries.size

end Tracker

end DeliveryFleet
