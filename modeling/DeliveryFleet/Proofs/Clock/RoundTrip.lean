import Mathlib
import DeliveryFleet.Proofs.Clock.Stored
import DeliveryFleet.Proofs.Pickup.Run

/-!
# Reading stored instants back

The store answers its queries on the counts it keeps (`Instant.toStored`), while the pickup rules
compare the instants read back from them (`Instant.ofStored`). The two agree on an instant the
store keeps exactly (`Instant.KeptExactly`): one in the signed 64-bit nanosecond range that is not
the Unix epoch. The count then keeps the order of instants (`Instant.toStored_lt_toStored_iff`) and
reads back as the instant (`Instant.ofStored_toStored`), so the store's expiry test, its "created
since" test and its order by creation agree with the same tests on instants
(`Instant.stored_instants_agree`).

Reading back gives the instant in no other case but the zero instant
(`Instant.ofStored_toStored_eq_iff`): the Unix epoch is kept as `0` and read back as the zero
instant, and a count outside the range wraps around. A code sent with the clock at the Unix epoch
reads back as created at the zero instant (`Hub.sent_at_epoch_created_at_zero`).
-/

namespace DeliveryFleet

/-- Wrapping lands in the signed 64-bit range. -/
theorem wrap64_mem_range (n : Int) : int64Min ≤ wrap64 n ∧ wrap64 n ≤ int64Max := by
  unfold wrap64 int64Min int64Max
  dsimp only
  have h₁ := Int.emod_nonneg n (by decide : (18446744073709551616 : Int) ≠ 0)
  have h₂ := Int.emod_lt_of_pos n (by decide : (0 : Int) < 18446744073709551616)
  split <;> omega

namespace Instant

/-- An instant the store keeps as it is: a signed 64-bit nanosecond count other than the Unix
epoch's `0`, which reads back as the zero instant. -/
def KeptExactly (t : Instant) : Prop := t.Storable ∧ t.nanos ≠ 0

variable {t u : Instant}

theorem toStored_zero : zero.toStored = 0 := by
  simp [toStored, isZero]

theorem ofStored_zero : ofStored 0 = zero := rfl

/-- An instant kept exactly reads back as itself. -/
theorem ofStored_toStored (ht : t.KeptExactly) : ofStored t.toStored = t := by
  rw [toStored_eq ht.1]
  simp [ofStored, ht.2]

/-- Reading back what the store keeps gives the instant exactly for the zero instant and for the
instants kept exactly. -/
theorem ofStored_toStored_eq_iff : ofStored t.toStored = t ↔ t = zero ∨ t.KeptExactly := by
  constructor
  · intro h
    by_cases hz : t = zero
    · exact .inl hz
    have hstored : t.toStored = wrap64 t.nanos := by
      have : t.isZero = false := by
        simpa [isZero] using fun hn => hz (by cases t; cases hn; rfl)
      simp [toStored, this]
    rw [hstored] at h
    unfold ofStored at h
    split at h
    · exact absurd h.symm hz
    · -- the wrapped count came back as the instant: it was in range all along
      rename_i hw
      have hn : wrap64 t.nanos = t.nanos := congrArg Instant.nanos h
      have hrange := wrap64_mem_range t.nanos
      rw [hn] at hrange
      exact .inr ⟨hrange, by simpa [hn] using hw⟩
  · rintro (rfl | ht)
    · rw [toStored_zero, ofStored_zero]
    · exact ofStored_toStored ht

/-- On storable instants the stored count keeps the order of instants. -/
theorem toStored_lt_toStored_iff (ht : t.Storable) (hu : u.Storable) :
    t.toStored < u.toStored ↔ t.before u = true := by
  rw [toStored_eq ht, toStored_eq hu]
  simp [before]

/-- The store's tests on counts and the same tests on the instants read back agree while the
instants compared are in the signed 64-bit range and those read back are not the Unix epoch:
such instants read back as themselves and their counts keep their order, so `expires_at > now`
is "not yet expired", `created_at >= since` is "created at or after since", and the order by
`created_at` is the order of creation. -/
theorem stored_instants_agree (now since created created' expiry : Instant)
    (hnow : now.Storable) (hsince : since.Storable) (hc : created.KeptExactly)
    (hc' : created'.KeptExactly) (he : expiry.KeptExactly) :
    ofStored created.toStored = created ∧ ofStored expiry.toStored = expiry ∧
      (created.toStored < created'.toStored ↔ created.before created' = true) ∧
      (now.toStored < expiry.toStored ↔ now.before (ofStored expiry.toStored) = true) ∧
      (since.toStored ≤ created.toStored ↔ (ofStored created.toStored).before since = false) ∧
      (created.toStored < created'.toStored ↔
        (ofStored created.toStored).before (ofStored created'.toStored) = true) := by
  have horder := toStored_lt_toStored_iff hc.1 hc'.1
  rw [ofStored_toStored hc, ofStored_toStored hc', ofStored_toStored he]
  refine ⟨rfl, rfl, horder, toStored_lt_toStored_iff hnow he.1, ?_, horder⟩
  rw [← not_lt, toStored_lt_toStored_iff hc.1 hsince, Bool.not_eq_true]

/-- On New Year's Day 2024, a code row created at the clock and expiring ten minutes later, a
second row a second later, and the resend window two minutes back. -/
theorem stored_instants_agree_in_2024 :
    let now := ofCivil 2024 1 1 0 0 0 0
    let since := now.add (-120000000000)
    let expiry := now.add 600000000000
    let later := now.add 1000000000
    (now.Storable ∧ since.Storable ∧ now.KeptExactly ∧ later.KeptExactly ∧ expiry.KeptExactly) ∧
      ofStored now.toStored = now ∧ ofStored expiry.toStored = expiry ∧
      (now.toStored < later.toStored ↔ now.before later = true) ∧
      (now.toStored < expiry.toStored ↔ now.before (ofStored expiry.toStored) = true) ∧
      (since.toStored ≤ now.toStored ↔ (ofStored now.toStored).before since = false) ∧
      (now.toStored < later.toStored ↔
        (ofStored now.toStored).before (ofStored later.toStored) = true) := by
  intro now since expiry later
  have hnow : now.KeptExactly := ⟨⟨by decide, by decide⟩, by decide⟩
  have hsince : since.Storable := ⟨by decide, by decide⟩
  have hlater : later.KeptExactly := ⟨⟨by decide, by decide⟩, by decide⟩
  have hexpiry : expiry.KeptExactly := ⟨⟨by decide, by decide⟩, by decide⟩
  exact ⟨⟨hnow.1, hsince, hnow, hlater, hexpiry⟩,
    stored_instants_agree now since now later expiry hnow.1 hsince hnow hlater hexpiry⟩

end Instant

namespace Hub

/-- With the clock at the Unix epoch, the row of a sent code reads back as created at the zero
instant, not at the clock. -/
theorem sent_at_epoch_created_at_zero :
    let h := pickupDemo (Instant.ofCivil 1970 1 1 0 0 0 0) ["111111"]
    h.now ≠ Instant.zero ∧
      (h.send "O1" "T1").2.store.codes.map (fun r => Instant.ofStored r.createdAt) =
        [Instant.zero] := by
  decide

end Hub

end DeliveryFleet
