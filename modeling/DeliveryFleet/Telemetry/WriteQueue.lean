import Std.Data.TreeMap

/-!
# The write-through queue

Every change to a robot or one of its containers schedules a write of its durable row
(`WriteTask`). Tasks wait in a queue of bounded capacity (`WriteQueue`): a task pushed onto a full
queue is dropped (`WriteQueue.push`). A flush runs, for each key, only the newest task waiting
under it (`WriteQueue.batch`), so that a burst of changes to one row costs one write.
-/

namespace DeliveryFleet

/-- A write of a durable row: a robot's row, or the row of one container of a robot. -/
inductive WriteTask where
  | robot (id : String)
  | container (robot code : String)
  deriving Repr, BEq, Inhabited

/-- The key under which tasks coalesce. -/
def WriteTask.key : WriteTask → String
  | .robot id => "robot/" ++ id
  | .container r c => "container/" ++ r ++ "/" ++ c

/-- Tasks waiting to be written, oldest first, and how many may wait. -/
structure WriteQueue where
  capacity : Nat
  pending : List WriteTask := []

namespace WriteQueue

/-- Adds a task unless the queue is full; tells whether it was taken. -/
def push (q : WriteQueue) (t : WriteTask) : WriteQueue × Bool :=
  if q.pending.length < q.capacity then ({ q with pending := q.pending ++ [t] }, true)
  else (q, false)

/-- The newest waiting task of each key, by key. -/
def batch (q : WriteQueue) : List WriteTask :=
  (q.pending.foldl (fun (m : Std.TreeMap String WriteTask compare) t => m.insert t.key t) {}).values

/-- The queue once everything waiting has been taken. -/
def drained (q : WriteQueue) : WriteQueue := { q with pending := [] }

end WriteQueue

end DeliveryFleet
