/-!
# Worker queues

Messages are spread over worker queues by topic, so that all messages of one topic go to one
queue in order. A topic goes to queue `fnv1a t % n` (`Worker.index`), where `fnv1a` is the 32-bit
FNV-1a hash of the topic's UTF-8 bytes and the number of queues is taken as a 32-bit word. A
count that is zero as a word has no queue (`none`).
-/

namespace DeliveryFleet.Worker

/-- The FNV-1a offset basis. -/
def offsetBasis : Nat := 2166136261

/-- The FNV-1a prime. -/
def prime : Nat := 16777619

/-- The 32-bit FNV-1a hash of a byte sequence. -/
def fnv1a (bs : List UInt8) : Nat :=
  bs.foldl (fun h b => ((h ^^^ b.toNat) * prime) % 4294967296) offsetBasis

/-- The queue of a topic among `n` queues. -/
def index (topic : String) (n : Int) : Option Nat :=
  let width := (n % 4294967296).toNat
  if width == 0 then none else some (fnv1a topic.toUTF8.toList % width)

end DeliveryFleet.Worker
