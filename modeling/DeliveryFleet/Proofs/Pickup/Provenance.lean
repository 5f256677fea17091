import DeliveryFleet.Proofs.Pickup.Run
import DeliveryFleet.Proofs.Clock.Stored

/-!
# Where a code row comes from

Every code row of a pair descends from a fresh issue: a send, or a resend that found no active
code, that drew the row's code at some instant `t₀`, and the row expires at the stored form of
`t₀ + codeTtl` (`rowOrigin_exec`). A resend copies the code and the expiry of the row it sends
again, a verification only marks rows and a cleanup only deletes them, so no operation lengthens a
code's life.

Hence a verification accepts a code only while the clock reads before the stored expiry of an issue
of it (`verified_before_stored_expiry`), and, while the clock stays inside the signed 64-bit range
of the store, only less than `codeTtl` after that issue (`verified_within_ttl_of_issue`). Outside
that range the stored expiry wraps around: a run started in 1677 keeps accepting a code after its
time to live (`verified_after_ttl_near_range_start`).
-/

namespace DeliveryFleet

namespace Hub

/-- A run issues `c` for a pair at `t₀`: one of its operations, at a hub whose clock reads `t₀`, is a
send or a resend of the pair that draws `c` from the codes still to hand out. -/
def Issues (h : Hub) (ops : List PickupOp) (o t c : String) (t₀ : Instant) : Prop :=
  ∃ pre op post, ops = pre ++ op :: post ∧ (op = .send o t ∨ op = .resend o t) ∧
    (h.exec pre).codes = c :: (op.run (h.exec pre)).2.codes ∧ (h.exec pre).now = t₀

theorem Issues.cons {h : Hub} {op : PickupOp} {ops : List PickupOp} {o t c : String}
    {t₀ : Instant} (hi : (op.run h).2.Issues ops o t c t₀) : h.Issues (op :: ops) o t c t₀ := by
  obtain ⟨pre, op', post, rfl, hop, hc, hn⟩ := hi
  exact ⟨op :: pre, op', post, rfl, hop, hc, hn⟩

/-- Where a row found after a run comes from: a row of the pair before it with the same code and
expiry, or an issue of its code during the run, whose expiry it keeps. -/
def RowOrigin (h : Hub) (ops : List PickupOp) (o t : String) (r : CodeRow) : Prop :=
  (∃ r₀ ∈ h.store.codesOf o t, r₀.code = r.code ∧ r₀.expiresAt = r.expiresAt) ∨
  ∃ t₀, h.Issues ops o t r.code t₀ ∧ r.expiresAt = (t₀.add h.settings.codeTtl).toStored

end Hub

namespace PickupOp

variable {h : Hub} {o t : String}

/-- One operation: a row of the pair after it was a row of the pair before it, up to the marks, or
is the fresh row of the code it drew. -/
theorem rowOrigin_run (op : PickupOp) {r : CodeRow} (hr : r ∈ (op.run h).2.store.codesOf o t) :
    h.RowOrigin [op] o t r := by
  obtain ⟨hm, ho, ht⟩ := Store.mem_codesOf.1 hr
  -- a row that was there already is its own origin
  have kept : r ∈ h.store.codes → h.RowOrigin [op] o t r :=
    fun hm₀ => .inl ⟨r, Store.mem_codesOf.2 ⟨hm₀, ho, ht⟩, rfl, rfl⟩
  cases rowStep op h with
  | keep hrows _ => exact kept (hrows ▸ hm)
  | issue o' t' c email hop hc hrows =>
    rw [hrows] at hm
    split at hm
    · exact kept hm
    · rcases List.mem_append.1 hm with hm | hm
      · exact kept hm
      · obtain rfl := List.mem_singleton.1 hm
        simp only [Hub.freshRow] at ho ht
        subst ho ht
        exact .inr ⟨h.now, ⟨[], op, [], rfl, hop, hc, rfl⟩, rfl⟩
  | copy o' t' prev email _ hl _ hrows =>
    rw [hrows] at hm
    rcases List.mem_append.1 hm with hm | hm
    · exact kept hm
    · obtain rfl := List.mem_singleton.1 hm
      -- the copy keeps the code and the expiry of the active row it copies
      have hprev := Store.latestActive_of_open (s := h.store) ?_ o' t' h.now.toStored
      · rw [hl] at hprev
        have hmem := (List.mem_filter.1 (newest?_mem (Except.ok.inj hprev).symm)).1
        obtain ⟨hm₀, -, -⟩ := Store.mem_codesOf.1 hmem
        exact .inl ⟨prev, Store.mem_codesOf.2 ⟨hm₀, ho, ht⟩, rfl, rfl⟩
      · cases hs : h.store.closed
        · rfl
        · simp [Store.latestActive, Store.guard, hs] at hl
  | mark o' t' c otp _ _ _ hrows =>
    rw [hrows] at hm
    obtain ⟨r₀, hm₀, rfl⟩ := List.mem_map.1 hm
    simp only [Store.markRow_orderCode, Store.markRow_tripCode] at ho ht
    exact .inl ⟨r₀, Store.mem_codesOf.2 ⟨hm₀, ho, ht⟩, by simp, by simp⟩
  | purge _ _ _ hrows =>
    rw [hrows] at hm
    exact kept (List.mem_filter.1 hm).1

end PickupOp

namespace Hub

variable {o t : String}

/-- Every row of a pair after a run is a row of the pair before it, up to the marks, or descends
from an issue of its code during the run and expires when that issue's row did. -/
theorem rowOrigin_exec (h : Hub) (ops : List PickupOp) {r : CodeRow}
    (hr : r ∈ (h.exec ops).store.codesOf o t) : h.RowOrigin ops o t r := by
  induction ops generalizing h r with
  | nil => exact .inl ⟨r, hr, rfl, rfl⟩
  | cons op ops ih =>
    rcases ih (op.run h).2 hr with ⟨r₁, hr₁, hc, he⟩ | ⟨t₀, hi, he⟩
    · -- the row was there after the first operation: trace it through that operation
      rcases op.rowOrigin_run hr₁ with ⟨r₀, hr₀, hc₀, he₀⟩ | ⟨t₀, hi₀, he₀⟩
      · exact .inl ⟨r₀, hr₀, hc₀.trans hc, he₀.trans he⟩
      · obtain ⟨pre, op', post, hpre, hop, hcodes, hnow⟩ := hi₀
        -- a run of one operation issues at that operation
        obtain ⟨rfl, hop', -⟩ : pre = [] ∧ op' = op ∧ post = [] := by
          cases pre with
          | nil => simpa [eq_comm] using hpre
          | cons _ _ => simp at hpre
        rw [hop'] at hop hcodes
        rw [hc] at hcodes
        exact .inr ⟨t₀, ⟨[], op, ops, rfl, hop, hcodes, hnow⟩, he ▸ he₀⟩
    · exact .inr ⟨t₀, hi.cons, by rw [he, PickupOp.settings_run]⟩

theorem Issues.now_le {h : Hub} {ops : List PickupOp} {c : String} {t₀ : Instant}
    (hi : h.Issues ops o t c t₀) : h.now.nanos ≤ t₀.nanos ∧ t₀.nanos ≤ (h.exec ops).now.nanos := by
  obtain ⟨pre, op, post, rfl, -, -, rfl⟩ := hi
  refine ⟨now_le_exec h pre, ?_⟩
  rw [exec_append]
  exact now_le_exec _ _

/-! ## Verifying within the time to live -/

variable {h : Hub} {ops : List PickupOp} {c : String}

/-- After a run from a hub with no rows of the pair, a verification accepts a code only while the
clock reads before the stored expiry of an issue of that code during the run. -/
theorem verified_before_stored_expiry (hnew : h.store.codesOf o t = [])
    (hv : ((h.exec ops).verify o t c).1 = .verified) :
    ∃ t₀, h.Issues ops o t c t₀ ∧
      (h.exec ops).now.before (Instant.ofStored (t₀.add h.settings.codeTtl).toStored) = true := by
  obtain ⟨otp, ha⟩ := verify_eq_verified_iff.1 hv
  obtain ⟨hm, haw⟩ := Store.awaits_of_latestUnverified ha.candidate
  simp only [Store.awaitsVerification, Bool.and_eq_true, beq_iff_eq, Bool.not_eq_eq_eq_not,
    Bool.not_true] at haw
  obtain ⟨⟨⟨ho, ht⟩, hc⟩, -⟩ := haw
  rcases rowOrigin_exec h ops (Store.mem_codesOf.2 ⟨hm, ho, ht⟩) with ⟨r₀, hr₀, -⟩ | ⟨t₀, hi, he⟩
  · simp [hnew] at hr₀
  · refine ⟨t₀, hc ▸ hi, ?_⟩
    rw [← he]
    exact ha.unexpired

/-- While the clock stays inside the range the store can hold, a verification after a run from a
hub with no rows of the pair accepts a code only less than the time to live after an issue of it
during the run. -/
theorem verified_within_ttl_of_issue (hnew : h.store.codesOf o t = [])
    (httl : 0 ≤ h.settings.codeTtl) (hstart : int64Min ≤ h.now.nanos)
    (hend : (h.exec ops).now.nanos + h.settings.codeTtl ≤ int64Max)
    (hv : ((h.exec ops).verify o t c).1 = .verified) :
    ∃ t₀, h.Issues ops o t c t₀ ∧ (h.exec ops).now.nanos < t₀.nanos + h.settings.codeTtl := by
  obtain ⟨t₀, hi, hb⟩ := verified_before_stored_expiry hnew hv
  obtain ⟨h₀, h₁⟩ := hi.now_le
  have hnow : (h.exec ops).now.Storable := ⟨by have := now_le_exec h ops; omega, by omega⟩
  have hexp : (t₀.add h.settings.codeTtl).Storable := ⟨by simp only [Instant.add]; omega,
    by simp only [Instant.add]; omega⟩
  rw [Instant.toStored_eq hexp] at hb
  exact ⟨t₀, hi, Instant.nanos_lt_of_before_ofStored hnow hb⟩

/-- A code sent at the start of 2024 and tried a minute later is accepted within its time to
live. -/
theorem verified_within_ttl_demo :
    (((pickupDemo (Instant.ofCivil 2024 1 1 0 0 0 0) ["111111"]).exec [.send "O1" "T1", .advance 60000000000]).verify
        "O1" "T1" "111111").1 = .verified ∧
    ∃ t₀, (pickupDemo (Instant.ofCivil 2024 1 1 0 0 0 0) ["111111"]).Issues [.send "O1" "T1", .advance 60000000000]
        "O1" "T1" "111111" t₀ ∧
      ((pickupDemo (Instant.ofCivil 2024 1 1 0 0 0 0) ["111111"]).exec [.send "O1" "T1", .advance 60000000000]).now.nanos <
        t₀.nanos + (pickupDemo (Instant.ofCivil 2024 1 1 0 0 0 0) ["111111"]).settings.codeTtl :=
  ⟨by decide, verified_within_ttl_of_issue rfl (by decide) (by decide) (by decide) (by decide)⟩

/-- Near the start of the store's range the stored expiry wraps around: a code sent on
1677-09-21 at midnight is still accepted fifteen minutes later, past its ten minutes to live. -/
theorem verified_after_ttl_near_range_start :
    (((pickupDemo (Instant.ofCivil 1677 9 21 0 0 0 0) ["111111"]).exec
        [.send "O1" "T1", .advance 900000000000]).verify "O1" "T1" "111111").1 = .verified ∧
    ∀ t₀, (pickupDemo (Instant.ofCivil 1677 9 21 0 0 0 0) ["111111"]).Issues
        [.send "O1" "T1", .advance 900000000000] "O1" "T1" "111111" t₀ →
      t₀.nanos + (pickupDemo (Instant.ofCivil 1677 9 21 0 0 0 0) ["111111"]).settings.codeTtl ≤
        ((pickupDemo (Instant.ofCivil 1677 9 21 0 0 0 0) ["111111"]).exec
          [.send "O1" "T1", .advance 900000000000]).now.nanos := by
  refine ⟨by decide, fun t₀ ⟨pre, op, post, hops, hop, _, hnow⟩ => ?_⟩
  -- the only operation that can issue is the send at the start
  match pre, hops with
  | [], hops =>
    obtain ⟨rfl, -⟩ := List.cons.inj hops
    subst hnow
    decide
  | [_], hops =>
    obtain ⟨-, hops⟩ := List.cons.inj hops
    obtain ⟨rfl, -⟩ := List.cons.inj hops
    simp at hop
  | _ :: _ :: _, hops => simp at hops

end Hub

end DeliveryFleet
