import Mathlib.Data.List.Induction
import DeliveryFleet.Store.Basic

/-!
# Code rows

How the store's code rows answer its queries and what its writes do to them.

* `newest?` picks a row of its list (`newest?_mem`) that no row of the list was created after
  (`createdAt_le_newest?`). Cut at any row `x`, a list's newest row is `x`, a row after `x`, or a
  row created strictly later than `x` (`newest?_append_cons`): this is how a row shields the older
  rows before it from the queries.
* An open store answers `latestActive` and `latestUnverified` with the newest row of the pair that
  passes the query's test, and its writes append a row (`insertCode_of_open`) or mark rows
  (`markVerified_of_open`, through `Store.markRow`); saving an order or a trip keeps the code rows
  (`saveOrder_keeps_codes`).
-/

namespace DeliveryFleet

/-! ## The newest row -/

@[simp] theorem newest?_nil : newest? [] = none := rfl

theorem newest?_append_singleton (l : List CodeRow) (r : CodeRow) :
    newest? (l ++ [r]) =
      match newest? l with
      | some b => if b.createdAt ≤ r.createdAt then some r else some b
      | none => some r := by
  rw [newest?, List.foldl_append]
  rfl

theorem newest?_eq_none_iff {l : List CodeRow} : newest? l = none ↔ l = [] := by
  induction l using List.reverseRecOn with
  | nil => simp
  | append_singleton l r _ =>
    rw [newest?_append_singleton]
    constructor
    · intro h
      split at h <;> (try split at h) <;> simp at h
    · simp

theorem newest?_mem {l : List CodeRow} {r : CodeRow} (h : newest? l = some r) : r ∈ l := by
  induction l using List.reverseRecOn generalizing r with
  | nil => simp at h
  | append_singleton l x ih =>
    rw [newest?_append_singleton] at h
    split at h
    · split at h <;> simp only [Option.some.injEq] at h <;> subst h
      · simp
      · exact List.mem_append_left _ (ih ‹_›)
    · simp only [Option.some.injEq] at h
      simp [h]

theorem createdAt_le_newest? {l : List CodeRow} {r x : CodeRow} (h : newest? l = some r)
    (hx : x ∈ l) : x.createdAt ≤ r.createdAt := by
  induction l using List.reverseRecOn generalizing r with
  | nil => simp at hx
  | append_singleton l y ih =>
    rw [newest?_append_singleton] at h
    rcases List.mem_append.1 hx with hx | hx
    · split at h
      · rename_i b hb
        have hxb := ih hb hx
        split at h <;> simp only [Option.some.injEq] at h <;> subst h <;> omega
      · simp_all [newest?_eq_none_iff]
    · simp only [List.mem_singleton] at hx
      subst hx
      split at h
      · split at h <;> simp only [Option.some.injEq] at h <;> subst h <;> omega
      · simp only [Option.some.injEq] at h
        subst h
        exact Int.le_refl _

/-- Cut a list at a row `x`: its newest row is `x`, a row after it, or a row created strictly
later than `x`. -/
theorem newest?_append_cons {l₁ l₂ : List CodeRow} {x r : CodeRow}
    (h : newest? (l₁ ++ x :: l₂) = some r) :
    x.createdAt ≤ r.createdAt ∧ (r ∈ x :: l₂ ∨ x.createdAt < r.createdAt) := by
  induction l₂ using List.reverseRecOn generalizing r with
  | nil =>
    rw [newest?_append_singleton] at h
    split at h
    · split at h <;> simp only [Option.some.injEq] at h <;> subst h
      · simp
      · omega
    · simp only [Option.some.injEq] at h
      simp [h]
  | append_singleton l₂ y ih =>
    rw [← List.cons_append, ← List.append_assoc, newest?_append_singleton] at h
    split at h
    · rename_i b hb
      obtain ⟨hxb, hb'⟩ := ih hb
      split at h <;> simp only [Option.some.injEq] at h <;> subst h
      · exact ⟨by omega, Or.inl (by simp)⟩
      · refine ⟨hxb, ?_⟩
        rcases hb' with hb' | hb'
        · exact Or.inl (List.mem_append_left _ hb')
        · exact Or.inr hb'
    · simp_all [newest?_eq_none_iff]

namespace Store

variable {s : Store}

/-! ## Queries and writes of an open store -/

theorem codesOf_of_codes {l : List CodeRow} (h : s.codes = l) (o t : String) :
    s.codesOf o t = l.filter fun r => r.orderCode == o && r.tripCode == t := by
  rw [codesOf, h]

theorem mem_codesOf {o t : String} {r : CodeRow} :
    r ∈ s.codesOf o t ↔ r ∈ s.codes ∧ r.orderCode = o ∧ r.tripCode = t := by
  simp [codesOf]

theorem latestActive_of_open (hs : s.closed = false) (o t : String) (now : Int) :
    s.latestActive o t now =
      .ok (newest? ((s.codesOf o t).filter fun r => !r.verified && decide (now < r.expiresAt))) := by
  simp [latestActive, guard, hs]

theorem latestUnverified_of_open (hs : s.closed = false) (o t c : String) :
    s.latestUnverified o t c =
      .ok (newest? ((s.codesOf o t).filter fun r => !r.verified && r.code == c)) := by
  simp [latestUnverified, guard, hs]

theorem countCreatedSince_of_open (hs : s.closed = false) (o t : String) (since : Int) :
    s.countCreatedSince o t since =
      .ok ((s.codesOf o t).filter fun r => decide (since ≤ r.createdAt)).length := by
  simp [countCreatedSince, guard, hs]

/-- The newest active row of a pair is an unverified row of the pair that expires after `now`. -/
theorem latestActive_spec {o t : String} {now : Int} {r : CodeRow}
    (h : s.latestActive o t now = .ok (some r)) :
    r ∈ s.codesOf o t ∧ r.verified = false ∧ now < r.expiresAt := by
  cases hs : s.closed
  · rw [latestActive_of_open hs] at h
    have hm := List.mem_filter.1 (newest?_mem (Except.ok.inj h))
    simp only [Bool.and_eq_true, Bool.not_eq_eq_eq_not, Bool.not_true, decide_eq_true_eq] at hm
    exact ⟨hm.1, hm.2⟩
  · simp [latestActive, guard, hs] at h

/-- The row a verification of `c` finds is a row of the store awaiting that verification. -/
theorem awaits_of_latestUnverified {o t c : String} {otp : CodeRow}
    (h : s.latestUnverified o t c = .ok (some otp)) :
    otp ∈ s.codes ∧ awaitsVerification o t c otp := by
  cases hs : s.closed
  · rw [latestUnverified_of_open hs] at h
    have hm := List.mem_filter.1 (newest?_mem (Except.ok.inj h))
    obtain ⟨hc, ho, ht⟩ := mem_codesOf.1 hm.1
    simp_all [awaitsVerification]
  · simp [latestUnverified, guard, hs] at h

/-- A row as `markVerified` leaves it. -/
def markRow (o t c : String) (stamp : Int) (r : CodeRow) : CodeRow :=
  if awaitsVerification o t c r then { r with verified := true, verifiedAt := some stamp } else r

section MarkRow

variable (o t c : String) (stamp : Int) (r : CodeRow)

@[simp] theorem markRow_orderCode : (markRow o t c stamp r).orderCode = r.orderCode := by
  unfold markRow; split <;> rfl
@[simp] theorem markRow_tripCode : (markRow o t c stamp r).tripCode = r.tripCode := by
  unfold markRow; split <;> rfl
@[simp] theorem markRow_code : (markRow o t c stamp r).code = r.code := by
  unfold markRow; split <;> rfl
@[simp] theorem markRow_createdAt : (markRow o t c stamp r).createdAt = r.createdAt := by
  unfold markRow; split <;> rfl
@[simp] theorem markRow_expiresAt : (markRow o t c stamp r).expiresAt = r.expiresAt := by
  unfold markRow; split <;> rfl
@[simp] theorem markRow_verified :
    (markRow o t c stamp r).verified = (r.verified || awaitsVerification o t c r) := by
  unfold markRow; split <;> simp [*]

theorem awaits_markRow_self : awaitsVerification o t c (markRow o t c stamp r) = false := by
  unfold markRow
  split
  · simp [awaitsVerification]
  · simpa using ‹¬awaitsVerification o t c r = true›

theorem awaits_of_awaits_markRow {c' : String}
    (h : awaitsVerification o t c (markRow o t c' stamp r) = true) :
    awaitsVerification o t c r = true := by
  unfold markRow at h
  split at h
  · simp [awaitsVerification] at h
  · exact h

theorem code_of_awaits (h : awaitsVerification o t c r = true) : r.code = c := by
  simp only [awaitsVerification, Bool.and_eq_true, beq_iff_eq] at h
  exact h.1.2

theorem markRow_of_not_awaits (h : awaitsVerification o t c r = false) : markRow o t c stamp r = r := by
  simp [markRow, h]

end MarkRow

theorem markVerified_of_open (hs : s.closed = false) (o t c : String) (stamp : Int) :
    s.markVerified o t c stamp =
      .ok ((s.codes.filter (awaitsVerification o t c)).length,
        { s with codes := s.codes.map (markRow o t c stamp) }) := by
  simp [markVerified, guard, hs, markRow]

theorem insertCode_of_open (hs : s.closed = false) (r : CodeRow) :
    s.insertCode r = .ok { s with codes := s.codes ++ [r] } := by
  simp [insertCode, guard, hs]

theorem eq_of_insertCode_eq_ok {r : CodeRow} {s' : Store} (hs : s.insertCode r = .ok s') :
    s' = { s with codes := s.codes ++ [r] } := by
  cases hc : s.closed <;> simp [insertCode, guard, hc] at hs
  exact hs.symm

/-- A save that succeeds files the order under its code with the id it answers. -/
theorem eq_of_saveOrder_eq_ok {s' : Store} {code email status : String} {tripId : Int} {n : Nat}
    (hs : s.saveOrder code tripId email status = .ok (n, s')) :
    s' = { s with orders := s.orders.insert code ⟨n, code, tripId, email, status⟩,
                  lastOrderId := s.lastOrderId + 1 } := by
  cases hc : s.closed <;> simp [saveOrder, guard, hc] at hs
  obtain ⟨rfl, rfl⟩ := hs
  rfl

/-- A save that succeeds files the trip under its code with the id it answers. -/
theorem eq_of_saveTrip_eq_ok {s' : Store} {code robot container status : String} {n : Nat}
    (hs : s.saveTrip code robot container status = .ok (n, s')) :
    s' = { s with trips := s.trips.insert code ⟨n, code, robot, container, status⟩,
                  lastTripId := s.lastTripId + 1 } := by
  cases hc : s.closed <;> simp [saveTrip, guard, hc] at hs
  obtain ⟨rfl, rfl⟩ := hs
  rfl

theorem saveOrder_keeps_codes {s' : Store} {code email status : String} {tripId : Int} {n : Nat}
    (hs : s.saveOrder code tripId email status = .ok (n, s')) :
    s'.codes = s.codes ∧ s'.closed = s.closed := by
  obtain rfl := eq_of_saveOrder_eq_ok hs
  exact ⟨rfl, rfl⟩

theorem saveTrip_keeps_codes {s' : Store} {code robot container status : String} {n : Nat}
    (hs : s.saveTrip code robot container status = .ok (n, s')) :
    s'.codes = s.codes ∧ s'.closed = s.closed := by
  obtain rfl := eq_of_saveTrip_eq_ok hs
  exact ⟨rfl, rfl⟩

theorem saveOrder_keeps_rows {s' : Store} {code email status : String} {tripId : Int} {n : Nat}
    (hs : s.saveOrder code tripId email status = .ok (n, s')) :
    s'.robots = s.robots ∧ s'.containers = s.containers := by
  obtain rfl := eq_of_saveOrder_eq_ok hs
  exact ⟨rfl, rfl⟩

theorem saveTrip_keeps_rows {s' : Store} {code robot container status : String} {n : Nat}
    (hs : s.saveTrip code robot container status = .ok (n, s')) :
    s'.robots = s.robots ∧ s'.containers = s.containers := by
  obtain rfl := eq_of_saveTrip_eq_ok hs
  exact ⟨rfl, rfl⟩

@[simp] theorem findTrip_withCodes (l : List CodeRow) (t : String) :
    ({ s with codes := l } : Store).findTrip t = s.findTrip t := rfl

end Store

end DeliveryFleet
