import DeliveryFleet.Proofs.Pickup.Delivery
import DeliveryFleet.Proofs.Pickup.Supersession

/-!
# A freshly sent code

A code that a send has just written is accepted by a verification at the same instant, and a
second verification of it right after answers `invalidCode` (`Hub.sent_code_verified_once`), as
long as the store keeps the clock and the expiry as they are: both are signed 64-bit nanosecond
counts (`Hub.ClockFits`), the expiry is not the Unix epoch, which the store keeps as `0` and
reads back as the zero instant, and no code row of the pair was created after the clock. A send
whose code expires at the Unix epoch writes a code that is expired at once
(`Hub.sent_code_expired_at_epoch`).

The second half holds of every accepted verification (`Hub.verify_again`): marking consumes every
unverified row of the pair that carries the code.
-/

namespace DeliveryFleet

/-- A row created no earlier than every row before it is the newest. -/
theorem newest?_append_of_le {l : List CodeRow} {r : CodeRow}
    (hle : ∀ x ∈ l, x.createdAt ≤ r.createdAt) : newest? (l ++ [r]) = some r := by
  rw [newest?_append_singleton]
  split
  · rename_i b hb
    rw [if_pos (hle b (newest?_mem hb))]
  · rfl

namespace Store

variable {s : Store} {o t c : String}

/-- Once the rows awaiting a verification of `c` are marked, no unverified row of the pair carries
`c`. -/
theorem latestUnverified_marked (hopen : s.closed = false) (stamp : Int) :
    ({ s with codes := s.codes.map (markRow o t c stamp) } : Store).latestUnverified o t c =
      .ok none := by
  rw [latestUnverified_of_open (s := { s with codes := s.codes.map (markRow o t c stamp) }) hopen,
    Except.ok.injEq, newest?_eq_none_iff, List.filter_eq_nil_iff]
  intro x hx
  obtain ⟨hm, ho, ht⟩ := mem_codesOf.1 hx
  obtain ⟨r, -, rfl⟩ := List.mem_map.1 hm
  have hself := awaits_markRow_self o t c stamp r
  simp only [awaitsVerification, ho, ht, beq_self_eq_true, Bool.true_and] at hself
  simpa [Bool.and_comm] using hself

end Store

namespace Attempt

variable {h : Hub} {o t c : String}

theorem verify_of_no_candidate (hu : h.store.latestUnverified o t c = .ok none) :
    (verify o t c).run.run h = (.ok .invalidCode, h) := by
  simp [verify, hu, -ExceptT.run_bind]

end Attempt

namespace Hub

variable {h : Hub} {o t c : String}

/-- A code accepted once is refused right after: the accepted verification marked every unverified
row of the pair that carries it. -/
theorem verify_again (hv : (h.verify o t c).1 = .verified) :
    ((h.verify o t c).2.verify o t c).1 = .invalidCode := by
  obtain ⟨otp, ha⟩ := verify_eq_verified_iff.1 hv
  have hstore := verify_store (h := h) (o := o) (t := t) (c := c)
  rw [if_pos hv] at hstore
  have hu : (h.verify o t c).2.store.latestUnverified o t c = .ok none := by
    rw [hstore]
    exact Store.latestUnverified_marked ha.open_ _
  generalize (h.verify o t c).2 = h' at hu ⊢
  simp [verify, runPickup_eq, Attempt.verify_of_no_candidate hu]

/-- The rows of the pair after a send that wrote the fresh row of `c`. -/
theorem codesOf_fresh {h' : Hub} {email : String}
    (hrows : h'.store.codes = h.store.codes ++ [h.freshRow o t c email]) :
    h'.store.codesOf o t = h.store.codesOf o t ++ [h.freshRow o t c email] := by
  rw [Store.codesOf_of_codes hrows, List.filter_append]
  simp [Store.codesOf, freshRow]

theorem freshRow_createdAt (hnow : h.now.Storable) (email : String) :
    (h.freshRow o t c email).createdAt = h.now.nanos :=
  Instant.toStored_eq hnow

/-- The fresh row of a send expires the time to live after the clock, and reads back so, while
the store keeps that instant as it is and it is not the Unix epoch. -/
theorem ofStored_freshRow_expiresAt (hexp : (h.now.add h.settings.codeTtl).Storable)
    (hepoch : (h.now.add h.settings.codeTtl).nanos ≠ 0) (email : String) :
    (h.freshRow o t c email).expiresAt = h.now.nanos + h.settings.codeTtl ∧
      Instant.ofStored (h.freshRow o t c email).expiresAt = h.now.add h.settings.codeTtl := by
  have hstored := Instant.toStored_eq hexp
  refine ⟨hstored, ?_⟩
  simp only [freshRow, hstored, Instant.ofStored]
  rw [if_neg (by simpa using hepoch)]

/-- The newest row of the pair that passes a test the fresh row passes is the fresh row, when no
row of the pair was created after the clock. -/
theorem newest_fresh (hnow : h.now.Storable)
    (hold : ∀ r ∈ h.store.codesOf o t, r.createdAt ≤ h.now.nanos) {email : String}
    (p : CodeRow → Bool) (hp : p (h.freshRow o t c email) = true) :
    newest? ((h.store.codesOf o t ++ [h.freshRow o t c email]).filter p) =
      some (h.freshRow o t c email) := by
  rw [List.filter_append, List.filter_singleton, hp, cond_true]
  apply newest?_append_of_le
  intro x hx
  rw [freshRow_createdAt hnow]
  exact hold x (List.mem_filter.1 hx).1

/-- Right after a send that answers that the code went out, a verification of its code at the
same instant is accepted and a second one is refused, while the store keeps the clock and the
code's expiry as they are (signed 64-bit nanosecond counts, the expiry not the Unix epoch) and no
row of the pair was created after the clock. The time to live is positive, as setup makes it. -/
theorem sent_code_verified_once (h : Hub) (o t : String) (hfit : h.ClockFits)
    (hepoch : (h.now.add h.settings.codeTtl).nanos ≠ 0) (httl : 0 < h.settings.codeTtl)
    (hold : ∀ r ∈ h.store.codesOf o t, r.createdAt ≤ h.now.nanos)
    (hsent : (h.send o t).1 = .sent ∨ (h.send o t).1 = .mailFailed) :
    ∃ c email, h.codes = c :: (h.send o t).2.codes ∧
      (h.send o t).2.store.codes = h.store.codes ++ [h.freshRow o t c email] ∧
      ((h.send o t).2.verify o t c).1 = .verified ∧
      (((h.send o t).2.verify o t c).2.verify o t c).1 = .invalidCode := by
  have hd : (h.send o t).1.delivered = true := by
    rcases hsent with hs | hs <;> simp [hs, Outcome.delivered]
  obtain ⟨hopen, c, email, hc, hrows⟩ := send_delivered hd
  have hframe : (h.send o t).2.frame = h.frame := send_frame
  simp only [frame, Prod.mk.injEq] at hframe
  obtain ⟨hnow, -, hclosed⟩ := hframe
  have hopen' : (h.send o t).2.store.closed = false := hclosed.trans hopen
  have hpair := codesOf_fresh hrows
  obtain ⟨hexp, hread⟩ := ofStored_freshRow_expiresAt (o := o) (t := t) (c := c) hfit.2 hepoch email
  -- the fresh row is the candidate, has not expired, and is the newest active row
  have hacc : (h.send o t).2.Accepts o t c (h.freshRow o t c email) := by
    refine ⟨hopen', ?_, ?_, ?_⟩
    · rw [Store.latestUnverified_of_open hopen', hpair,
        newest_fresh hfit.1 hold _ (by simp [freshRow])]
    · rw [hread, hnow]
      simp [Instant.before, Instant.add, httl]
    · intro latest hl
      rw [Store.latestActive_of_open hopen', hpair, hnow, newest_fresh hfit.1 hold _
        (by simp only [hexp, Instant.toStored_eq hfit.1]; simp [freshRow, httl])] at hl
      cases hl
      rfl
  have hv := verify_eq_verified_iff.2 ⟨_, hacc⟩
  exact ⟨c, email, hc, hrows, hv, verify_again hv⟩

/-- At the start of 2024, with the ten minutes to live, a code sent without a mailer is accepted
once. -/
theorem sent_code_verified_once_in_2024 :
    let h := pickupDemo (Instant.ofCivil 2024 1 1 0 0 0 0) ["111111"]
    (h.ClockFits ∧ (h.now.add h.settings.codeTtl).nanos ≠ 0 ∧ 0 < h.settings.codeTtl ∧
      (∀ r ∈ h.store.codesOf "O1" "T1", r.createdAt ≤ h.now.nanos) ∧
      (h.send "O1" "T1").1 = .mailFailed) ∧
    ∃ c email, h.codes = c :: (h.send "O1" "T1").2.codes ∧
      (h.send "O1" "T1").2.store.codes = h.store.codes ++ [h.freshRow "O1" "T1" c email] ∧
      ((h.send "O1" "T1").2.verify "O1" "T1" c).1 = .verified ∧
      (((h.send "O1" "T1").2.verify "O1" "T1" c).2.verify "O1" "T1" c).1 = .invalidCode := by
  intro h
  have hfit : h.ClockFits := ⟨⟨by decide, by decide⟩, ⟨by decide, by decide⟩⟩
  have hsent : (h.send "O1" "T1").1 = .mailFailed := by decide
  exact ⟨⟨hfit, by decide, by decide, by decide, hsent⟩,
    sent_code_verified_once h "O1" "T1" hfit (by decide) (by decide) (by decide) (.inr hsent)⟩

/-- With the clock at 1969-12-31T23:50:00Z and ten minutes to live, a sent code expires at the
Unix epoch, which the store reads back as the zero instant: a verification at once finds it
expired. -/
theorem sent_code_expired_at_epoch :
    let h := pickupDemo (Instant.ofCivil 1969 12 31 23 50 0 0) ["111111"]
    (h.send "O1" "T1").1 = .mailFailed ∧ h.codes = "111111" :: (h.send "O1" "T1").2.codes ∧
      ((h.send "O1" "T1").2.verify "O1" "T1" "111111").1 = .expired := by
  decide

end Hub

end DeliveryFleet
