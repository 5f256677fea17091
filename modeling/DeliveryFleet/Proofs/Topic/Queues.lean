import Mathlib
import DeliveryFleet.Topic.Worker

/-!
# Which worker queue a topic goes to

Of `n` worker queues a topic goes to queue `fnv1a t % w`, where `w` is `n` taken as a 32-bit
word (`Worker.index`). The queue depends on nothing but the topic and `n`, and it is found
exactly when `w` is not zero (`Worker.index_eq_some_iff`). It then lies below `w`, which is at
most `n` for a count that is not negative, so it names a queue that exists
(`Worker.lt_of_index_eq_some`).

A positive count can still be zero as a word: from `2^32` queues on, every multiple of `2^32`
leaves the hash nothing to be reduced by (`Worker.index_picks_queue`,
`Worker.index_fails_at_word_size`).
-/

namespace DeliveryFleet.Worker

variable (topic : String) {n : Int} {i : Nat}

/-- A topic's queue is the hash reduced by the count as a word, exactly when that word is not
zero. -/
theorem index_eq_some_iff :
    index topic n = some i ↔
      n % 4294967296 ≠ 0 ∧ i = fnv1a topic.toUTF8.toList % (n % 4294967296).toNat := by
  have hnn : 0 ≤ n % 4294967296 := Int.emod_nonneg n (by decide)
  -- the word is zero as a natural number exactly when it is zero as an integer
  have hzero : (n % 4294967296).toNat = 0 ↔ n % 4294967296 = 0 := by omega
  unfold index
  dsimp only
  split
  next hw =>
    simp only [beq_iff_eq, hzero] at hw
    simp [hw]
  next hw =>
    simp only [beq_iff_eq, hzero] at hw
    simp [hw, eq_comm]

theorem index_eq_none_iff : index topic n = none ↔ n % 4294967296 = 0 := by
  rcases hidx : index topic n with _ | i
  · simp only [true_iff]
    by_contra hw
    exact absurd ((index_eq_some_iff topic).2 ⟨hw, rfl⟩) (by simp [hidx])
  · simpa using ((index_eq_some_iff topic).1 hidx).1

/-- The queue picked for a count that is not negative is one of the `n` queues. -/
theorem lt_of_index_eq_some (hn : 0 ≤ n) (h : index topic n = some i) : (i : Int) < n := by
  obtain ⟨hw, rfl⟩ := (index_eq_some_iff topic).1 h
  have hnn : 0 ≤ n % 4294967296 := Int.emod_nonneg n (by decide)
  -- the hash reduced by the word lies below the word, and the word is at most the count
  have hlt : fnv1a topic.toUTF8.toList % (n % 4294967296).toNat < (n % 4294967296).toNat :=
    Nat.mod_lt _ (by omega)
  omega

/-- For every positive count `n` of queues, a topic's queue is found exactly when `n` is not a
multiple of `2^32`, and then it is the hash reduced by `n` as a 32-bit word, below `n`. -/
theorem index_picks_queue (topic : String) (n : Int) (hn : 1 ≤ n) :
    ((index topic n).isSome ↔ ¬ (4294967296 : Int) ∣ n) ∧
      ∀ i, index topic n = some i →
        (i : Int) < n ∧ i = fnv1a topic.toUTF8.toList % (n % 4294967296).toNat := by
  constructor
  · rw [← Option.ne_none_iff_isSome, Ne, index_eq_none_iff, Int.dvd_iff_emod_eq_zero]
  · intro i h
    exact ⟨lt_of_index_eq_some topic (by omega) h, ((index_eq_some_iff topic).1 h).2⟩

/-- Eight queues, as the client's test has them. -/
theorem index_picks_queue_of_eight :
    1 ≤ (8 : Int) ∧
      ((index "robot/R7/battery" 8).isSome ↔ ¬ (4294967296 : Int) ∣ 8) ∧
      ∀ i, index "robot/R7/battery" 8 = some i →
        (i : Int) < 8 ∧
          i = fnv1a "robot/R7/battery".toUTF8.toList % ((8 : Int) % 4294967296).toNat :=
  ⟨by decide, index_picks_queue "robot/R7/battery" 8 (by decide)⟩

/-- With `2^32` queues, a positive count, no queue is found: the division by the count as a word
fails. -/
theorem index_fails_at_word_size :
    ¬ ∀ (topic : String) (n : Int), 1 ≤ n → ∃ i, index topic n = some i ∧ (i : Int) < n := by
  intro hclaim
  obtain ⟨i, hi, -⟩ := hclaim "a" 4294967296 (by decide)
  exact absurd ((@index_eq_none_iff "a" 4294967296).2 (by decide)) (by simp [hi])

end DeliveryFleet.Worker
