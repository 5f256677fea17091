import Std.Data.TreeMap

/-!
# The merge loop

The write-through pipeline (`Pipeline`) holds an input buffer of bounded capacity, which pushes
fill without blocking (`Pipeline.push` drops a task when it is full), and a map of the newest
received task under each key.

Its loop (`Pipeline.start`) serves the input buffer and a flush ticker until its context is
cancelled. Once it is, the loop may still take either of the other ready cases for a while,
as Go's `select` picks among ready cases at random, so a run is given by the events it takes
(`LoopEvent`) before it drains (`Pipeline.drain`): the drain takes what is left in the input into
the map and flushes it.

A received task replaces the one filed under its key; once the map holds `threshold` keys the
loop flushes (`Pipeline.step`), as it does at a tick with something pending. A flush
(`Pipeline.flush`) runs every task of the map, each write on its own, and empties the map: a
write that fails or panics is recovered and counted as failed, and the others run all the same.
Each batch is answered with how each of its writes ended.
-/

namespace DeliveryFleet

/-- What the merge loop takes next while tasks wait and its context is cancelled. -/
inductive LoopEvent where
  /-- a task from the input buffer -/
  | receive
  /-- a tick of the flush ticker -/
  | tick
  deriving Repr, DecidableEq

/-- How a write ended. -/
inductive WriteOutcome where
  | success
  | failed
  | panicked
  deriving Repr, DecidableEq

/-- The counter a write is counted under: a panic is recovered and counted as failed. -/
def WriteOutcome.label : WriteOutcome → String
  | .success => "success"
  | .failed => "failed"
  | .panicked => "failed"

/-- The pipeline: the input buffer, oldest first, with its capacity, the number of keys that
forces a flush, and the newest received task under each key. -/
structure Pipeline (τ : Type) where
  capacity : Nat
  threshold : Nat
  input : List τ := []
  pending : Std.TreeMap String τ compare := {}

namespace Pipeline

variable {τ : Type} (key : τ → String) (run : τ → WriteOutcome)

/-- Adds a task to the input buffer unless it is full; tells whether it was taken. -/
def push (p : Pipeline τ) (t : τ) : Pipeline τ × Bool :=
  if p.input.length < p.capacity then ({ p with input := p.input ++ [t] }, true) else (p, false)

/-- Pushes tasks in order; tells for each whether it was taken. -/
def pushAll (p : Pipeline τ) : List τ → Pipeline τ × List Bool
  | [] => (p, [])
  | t :: ts =>
    let r := (p.push t).1.pushAll ts
    (r.1, (p.push t).2 :: r.2)

/-- Runs every pending task and empties the map: the batch, each task with how its write ended. -/
def flush (p : Pipeline τ) : List (τ × WriteOutcome) × Pipeline τ :=
  (p.pending.values.map fun t => (t, run t), { p with pending := {} })

/-- One event of the loop, with the batch it ran if it flushed. -/
def step (p : Pipeline τ) : LoopEvent → Option (List (τ × WriteOutcome)) × Pipeline τ
  | .receive =>
    match p.input with
    | [] => (none, p)
    | t :: rest =>
      let p := { p with input := rest, pending := p.pending.insert (key t) t }
      if p.threshold ≤ p.pending.size then ((some (p.flush run).1), (p.flush run).2)
      else (none, p)
  | .tick =>
    if p.pending.isEmpty then (none, p) else (some (p.flush run).1, (p.flush run).2)

/-- Takes everything left in the input into the map, and flushes it unless it is empty. -/
def drain (p : Pipeline τ) : List (List (τ × WriteOutcome)) × Pipeline τ :=
  let p := { p with input := [], pending := p.input.foldl (fun m t => m.insert (key t) t) p.pending }
  if p.pending.isEmpty then ([], p) else ([(p.flush run).1], (p.flush run).2)

/-- The loop with its context cancelled: the events it takes, then the drain. Answers the
batches it ran, in order. -/
def start (p : Pipeline τ) : List LoopEvent → List (List (τ × WriteOutcome)) × Pipeline τ
  | [] => p.drain key run
  | e :: es =>
    let r := (p.step key run e).2.start es
    ((p.step key run e).1.toList ++ r.1, r.2)

end Pipeline

end DeliveryFleet
