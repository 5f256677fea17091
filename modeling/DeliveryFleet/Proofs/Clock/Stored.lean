import DeliveryFleet.Clock.Instant

/-!
# Stored instants

The store keeps an instant as a signed 64-bit count of nanoseconds (`Instant.toStored`). An instant
whose count fits (`Instant.Storable`) is kept as it is (`toStored_eq`), so that the store compares
such instants as the clock does; reading a stored count back as an expiry (`Instant.ofStored`) can
only make a code expire sooner (`nanos_lt_of_before_ofStored`). Outside that range the count
wraps around.
-/

namespace DeliveryFleet

theorem wrap64_eq_self {n : Int} (h₁ : int64Min ≤ n) (h₂ : n ≤ int64Max) : wrap64 n = n := by
  unfold wrap64
  unfold int64Min at h₁
  unfold int64Max at h₂
  dsimp only
  split <;> omega

namespace Instant

/-- An instant whose nanosecond count is a signed 64-bit number. -/
def Storable (t : Instant) : Prop := int64Min ≤ t.nanos ∧ t.nanos ≤ int64Max

variable {t : Instant}

theorem zero_lt_of_storable (ht : t.Storable) : zero.nanos < t.nanos := by
  have := ht.1
  unfold int64Min at this
  simp only [zero, epochDaysFromYearOne, nanosPerSecond]
  omega

/-- A storable instant is stored as its nanosecond count. -/
theorem toStored_eq (ht : t.Storable) : t.toStored = t.nanos := by
  have hz : t.isZero = false := by
    simp only [isZero, beq_eq_false_iff_ne, ne_eq]
    exact Int.ne_of_gt (zero_lt_of_storable ht)
  simp [toStored, hz, wrap64_eq_self ht.1 ht.2]

/-- An instant before the expiry read back from a stored count is before the count itself. -/
theorem nanos_lt_of_before_ofStored {e : Int} (ht : t.Storable)
    (h : t.before (ofStored e) = true) : t.nanos < e := by
  unfold ofStored at h
  split at h
  · have := zero_lt_of_storable ht
    simp only [before, decide_eq_true_eq] at h
    omega
  · simpa [before] using h

end Instant

end DeliveryFleet
