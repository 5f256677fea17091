import DeliveryFleet.Proofs.Pickup.Run
import DeliveryFleet.Proofs.Clock.Stored

/-!
# Superseded codes

A fresh issue of a code `c₂` for a pair supersedes its older codes. The store does not record
this: a verification of an older code `c₁` refuses because the newest active row of the pair
carries `c₂`. So the refusal lasts only while that row of `c₂` stays unverified.

* The rows of the pair shield `c₁` behind `c₂` (`ShieldedRows`) when the rows of `c₁` all sit
  before an unverified row of `c₂` and were created and expire no later than it, or when every
  unverified row of `c₁` has expired. Then whenever an unverified row of `c₁` is still unexpired,
  the newest active row exists and does not carry `c₁` (`ShieldedRows.newest_active_ne`), and
  no verification of `c₁` is accepted (`Hub.Shielded.not_accepts`).
* Every operation keeps the shield except an accepted verification of `c₂` (`Hub.shielded_run`).
  A fresh issue of `c₂` puts it up when no row of the pair was created after the clock or
  expires later than the time to live after it (`Hub.Bounded`, `Hub.shielded_of_issue`). That
  holds over every run while the clock stays in the range the store holds (`Hub.bounded_exec`).

Hence `superseded_code_refused`: after an issue of `c₂`, every verification of `c₁` answers
`invalidCode` or `expired` as long as no verification of `c₂` was accepted. The condition is
needed. Verifying `c₂` marks its rows, the newest active row is again one of `c₁`, and `c₁` is
accepted (`superseded_code_revived`).
-/

namespace DeliveryFleet

/-- Whether a row is active at `now`: unverified and not yet expired. -/
def CodeRow.activeAt (now : Int) (r : CodeRow) : Bool := !r.verified && decide (now < r.expiresAt)

/-! ## Rows shielding an older code -/

/-- Rows of an older code `c₁` sit behind a row `R`: `R` is unverified, no row from `R` on carries
`c₁`, and every row of `c₁` before `R` was created and expires no later than `R`. -/
structure Behind (c₁ : String) (l₁ : List CodeRow) (R : CodeRow) (l₂ : List CodeRow) : Prop where
  unverified : R.verified = false
  after : ∀ r ∈ R :: l₂, r.code ≠ c₁
  before : ∀ r ∈ l₁, r.code = c₁ → r.createdAt ≤ R.createdAt ∧ r.expiresAt ≤ R.expiresAt

/-- Rows shield an older code `c₁` behind a newer code `c₂` at the stored instant `now`: the rows
of `c₁` sit behind an unverified row of `c₂`, or every unverified row of `c₁` has expired. -/
def ShieldedRows (c₁ c₂ : String) (l : List CodeRow) (now : Int) : Prop :=
  (∃ l₁ R l₂, l = l₁ ++ R :: l₂ ∧ R.code = c₂ ∧ Behind c₁ l₁ R l₂) ∨
  ∀ r ∈ l, r.code = c₁ → r.verified = false → r.expiresAt ≤ now

namespace Behind

variable {c₁ : String} {l₁ l₂ : List CodeRow} {R r : CodeRow}

theorem of_mem (hb : Behind c₁ l₁ R l₂) (hr : r ∈ l₁ ++ R :: l₂) (hc : r.code = c₁) :
    r.createdAt ≤ R.createdAt ∧ r.expiresAt ≤ R.expiresAt := by
  rcases List.mem_append.1 hr with hr | hr
  · exact hb.before r hr hc
  · exact absurd hc (hb.after r hr)

end Behind

namespace ShieldedRows

variable {c₁ c₂ : String} {l : List CodeRow} {now : Int}

/-- The shield: while an unverified row of `c₁` is unexpired, the newest active row exists and
does not carry `c₁`. -/
theorem newest_active_ne (hs : ShieldedRows c₁ c₂ l now) {r : CodeRow} (hr : r ∈ l)
    (hc : r.code = c₁) (hv : r.verified = false) (hx : now < r.expiresAt) :
    ∃ latest, newest? (l.filter (CodeRow.activeAt now)) = some latest ∧ latest.code ≠ c₁ := by
  rcases hs with ⟨l₁, R, l₂, rfl, -, hb⟩ | hlapsed
  · -- `R` expires no sooner than `r`, so it is active and shields `r`
    have hR : now < R.expiresAt := Int.lt_of_lt_of_le hx (hb.of_mem hr hc).2
    have hsplit : (l₁ ++ R :: l₂).filter (CodeRow.activeAt now) =
        l₁.filter (CodeRow.activeAt now) ++ R :: l₂.filter (CodeRow.activeAt now) := by
      simp [List.filter_append, CodeRow.activeAt, hb.unverified, hR]
    rw [hsplit]
    cases hn : newest? (l₁.filter (CodeRow.activeAt now) ++ R :: l₂.filter (CodeRow.activeAt now))
      with
    | none => simp [newest?_eq_none_iff] at hn
    | some latest =>
      refine ⟨latest, rfl, fun hlc => ?_⟩
      obtain ⟨-, hlate⟩ := newest?_append_cons hn
      have hm := newest?_mem hn
      rcases List.mem_append.1 hm with hm₁ | hm₂
      · -- a row of `c₁` before `R` is not newer than `R`, nor is it `R` or after it
        have hle := (hb.before latest (List.mem_filter.1 hm₁).1 hlc).1
        rcases hlate with hlate | hlate
        · exact hb.after latest (((List.filter_sublist (l := l₂)).cons_cons R).subset hlate) hlc
        · omega
      · exact hb.after latest (((List.filter_sublist (l := l₂)).cons_cons R).subset hm₂) hlc
  · exact absurd (hlapsed r hr hc hv) (Int.not_le.2 hx)

theorem mono {now' : Int} (hs : ShieldedRows c₁ c₂ l now) (hle : now ≤ now') :
    ShieldedRows c₁ c₂ l now' := by
  rcases hs with hb | hlapsed
  · exact .inl hb
  · exact .inr fun r hr hc hv => Int.le_trans (hlapsed r hr hc hv) hle

theorem append (hs : ShieldedRows c₁ c₂ l now) {x : CodeRow} (hx : x.code ≠ c₁) :
    ShieldedRows c₁ c₂ (l ++ [x]) now := by
  rcases hs with ⟨l₁, R, l₂, rfl, hc, hb⟩ | hlapsed
  · refine .inl ⟨l₁, R, l₂ ++ [x], by simp, hc, hb.unverified, ?_, hb.before⟩
    intro r hr
    rcases List.mem_cons.1 hr with rfl | hr
    · exact hb.after _ List.mem_cons_self
    · rcases List.mem_append.1 hr with hr | hr
      · exact hb.after r (List.mem_cons_of_mem _ hr)
      · rw [List.mem_singleton.1 hr]
        exact hx
  · refine .inr fun r hr hc hv => ?_
    rcases List.mem_append.1 hr with hr | hr
    · exact hlapsed r hr hc hv
    · exact absurd (List.mem_singleton.1 hr ▸ hc) hx

theorem map_markRow (hs : ShieldedRows c₁ c₂ l now) {o t c : String} {stamp : Int}
    (hkeep : ∀ r ∈ l, r.code = c₂ → Store.markRow o t c stamp r = r) :
    ShieldedRows c₁ c₂ (l.map (Store.markRow o t c stamp)) now := by
  rcases hs with ⟨l₁, R, l₂, rfl, hc, hb⟩ | hlapsed
  · have hR : Store.markRow o t c stamp R = R := hkeep R (by simp) hc
    refine .inl ⟨l₁.map (Store.markRow o t c stamp), R, l₂.map (Store.markRow o t c stamp),
      by simp [hR], hc, hb.unverified, ?_, ?_⟩
    · intro r hr
      rcases List.mem_cons.1 hr with rfl | hr
      · exact hb.after _ List.mem_cons_self
      · obtain ⟨r₀, hr₀, rfl⟩ := List.mem_map.1 hr
        simpa using hb.after r₀ (List.mem_cons_of_mem _ hr₀)
    · intro r hr hrc
      obtain ⟨r₀, hr₀, rfl⟩ := List.mem_map.1 hr
      simpa using hb.before r₀ hr₀ (by simpa using hrc)
  · refine .inr fun r hr hc hv => ?_
    obtain ⟨r₀, hr₀, rfl⟩ := List.mem_map.1 hr
    simp only [Store.markRow_verified, Bool.or_eq_false_iff] at hv
    simpa using hlapsed r₀ hr₀ (by simpa using hc) hv.1

theorem filter (hs : ShieldedRows c₁ c₂ l now) {p : CodeRow → Bool}
    (hp : ∀ r, p r = false → r.expiresAt < now) : ShieldedRows c₁ c₂ (l.filter p) now := by
  rcases hs with ⟨l₁, R, l₂, rfl, hc, hb⟩ | hlapsed
  · by_cases hR : p R = true
    · refine .inl ⟨l₁.filter p, R, l₂.filter p, by simp [List.filter_append, hR], hc,
        hb.unverified, ?_, fun r hr => hb.before r (List.mem_filter.1 hr).1⟩
      intro r hr
      rcases List.mem_cons.1 hr with rfl | hr
      · exact hb.after _ List.mem_cons_self
      · exact hb.after r (List.mem_cons_of_mem _ (List.mem_filter.1 hr).1)
    · -- `R` expired, and the rows of `c₁` expired no later
      have hx := hp R (by simpa using hR)
      refine .inr fun r hr hrc _ => ?_
      have := (hb.of_mem (List.mem_filter.1 hr).1 hrc).2
      omega
  · exact .inr fun r hr hc hv => hlapsed r (List.mem_filter.1 hr).1 hc hv

end ShieldedRows

namespace Hub

variable {h : Hub} {o t c₁ c₂ : String}

/-! ## The shield on a hub -/

/-- The clock reads inside the range the store holds, and so does the clock moved on by the time
to live. -/
def ClockFits (h : Hub) : Prop := h.now.Storable ∧ (h.now.add h.settings.codeTtl).Storable

/-- The rows of a pair shield `c₁` behind `c₂` at the hub's clock. -/
def Shielded (o t c₁ c₂ : String) (h : Hub) : Prop :=
  ShieldedRows c₁ c₂ (h.store.codesOf o t) h.now.toStored

theorem Shielded.not_accepts (hs : h.Shielded o t c₁ c₂) (hnow : h.now.Storable) {otp : CodeRow} :
    ¬ h.Accepts o t c₁ otp := by
  intro ha
  obtain ⟨hm, haw⟩ := Store.awaits_of_latestUnverified ha.candidate
  simp only [Store.awaitsVerification, Bool.and_eq_true, beq_iff_eq, Bool.not_eq_eq_eq_not,
    Bool.not_true] at haw
  obtain ⟨⟨⟨ho, ht⟩, hc⟩, hv⟩ := haw
  have hx : h.now.toStored < otp.expiresAt := by
    rw [Instant.toStored_eq hnow]
    exact Instant.nanos_lt_of_before_ofStored hnow ha.unexpired
  obtain ⟨latest, hl, hne⟩ :=
    ShieldedRows.newest_active_ne hs (Store.mem_codesOf.2 ⟨hm, ho, ht⟩) hc hv hx
  exact hne (ha.newest latest (by rw [Store.latestActive_of_open ha.open_, ← hl]; rfl))

/-- Every operation keeps the shield, except an accepted verification of `c₂`. -/
theorem shielded_run (hs : h.Shielded o t c₁ c₂) (hspent : c₁ ∉ h.codes)
    (hnow : h.now.Storable) (op : PickupOp) (hnow' : (op.run h).2.now.Storable)
    (hkept : (op, (op.run h).1) ≠ (.verify o t c₂, some .verified)) :
    (op.run h).2.Shielded o t c₁ c₂ := by
  have hle : h.now.toStored ≤ (op.run h).2.now.toStored := by
    rw [Instant.toStored_eq hnow, Instant.toStored_eq hnow']
    exact PickupOp.now_le_run op
  unfold Shielded
  cases PickupOp.pairStep o t op h with
  | keep hp => exact hp ▸ hs.mono hle
  | fresh c email _ hc hp =>
    have hne : c ≠ c₁ := fun hc₁ => hspent (hc₁ ▸ hc ▸ List.mem_cons_self)
    rw [hp]
    exact (hs.append hne).mono hle
  | copy prev email _ hl hp =>
    -- the row a resend copies is the newest active row, which the shield keeps off `c₁`
    have hne : prev.code ≠ c₁ := by
      intro hc
      obtain ⟨hm, hv, hx⟩ := Store.latestActive_spec hl
      obtain ⟨latest, hl', hne⟩ := ShieldedRows.newest_active_ne hs hm hc hv hx
      have hopen : h.store.closed = false := by
        cases hcl : h.store.closed
        · rfl
        · simp [Store.latestActive, Store.guard, hcl] at hl
      rw [Store.latestActive_of_open hopen] at hl
      exact hne (Option.some.inj ((Except.ok.inj hl).symm.trans hl') ▸ hc)
    rw [hp]
    exact (hs.append (by simpa [copyRow] using hne)).mono hle
  | mark o' t' c otp hop ha hp =>
    -- marking for anything but `c₂` of this pair leaves the rows of `c₂` alone
    have hkeep : ∀ r ∈ h.store.codesOf o t, r.code = c₂ →
        Store.markRow o' t' c h.now.toStored r = r := by
      intro r hr hrc
      apply Store.markRow_of_not_awaits
      obtain ⟨-, ho, ht⟩ := Store.mem_codesOf.1 hr
      cases haw : Store.awaitsVerification o' t' c r
      · rfl
      · simp only [Store.awaitsVerification, Bool.and_eq_true, beq_iff_eq] at haw
        obtain ⟨⟨⟨rfl, rfl⟩, rfl⟩, -⟩ := haw
        subst ho ht hrc
        exact absurd (by rw [hop]; simp [PickupOp.run, verify_eq_verified_iff.2 ⟨otp, ha⟩])
          hkept
    rw [hp]
    exact (hs.map_markRow hkeep).mono hle
  | purge _ hp =>
    rw [hp]
    refine (hs.filter fun r hr => ?_).mono hle
    simp only [Bool.not_eq_eq_eq_not, Bool.not_false, Store.expiredBy, Bool.and_eq_true,
      decide_eq_true_eq] at hr
    exact hr.1

/-! ## Rows no newer than the clock -/

/-- No row of the pair was created after the clock or expires later than the time to live after
it. -/
def Bounded (o t : String) (h : Hub) : Prop :=
  ∀ r ∈ h.store.codesOf o t,
    r.createdAt ≤ h.now.nanos ∧ r.expiresAt ≤ h.now.nanos + h.settings.codeTtl

theorem bounded_run (hf : h.ClockFits) (hb : h.Bounded o t) (op : PickupOp) :
    (op.run h).2.Bounded o t := by
  intro r hr
  have hnow := PickupOp.now_le_run op (h := h)
  rw [PickupOp.settings_run]
  -- every row after the step is bounded by the clock before it
  suffices r.createdAt ≤ h.now.nanos ∧ r.expiresAt ≤ h.now.nanos + h.settings.codeTtl by omega
  have hstored := Instant.toStored_eq hf.1
  cases PickupOp.pairStep o t op h with
  | keep hp => exact hb r (hp ▸ hr)
  | fresh c email _ _ hp =>
    rw [hp] at hr
    rcases List.mem_append.1 hr with hr | hr
    · exact hb r hr
    · obtain rfl := List.mem_singleton.1 hr
      simp only [freshRow, hstored, Instant.toStored_eq hf.2]
      simp [Instant.add]
  | copy prev email _ hl hp =>
    rw [hp] at hr
    rcases List.mem_append.1 hr with hr | hr
    · exact hb r hr
    · obtain rfl := List.mem_singleton.1 hr
      exact ⟨by simp [copyRow, hstored], (hb prev (Store.latestActive_spec hl).1).2⟩
  | mark o' t' c otp _ _ hp =>
    rw [hp] at hr
    obtain ⟨r₀, hr₀, rfl⟩ := List.mem_map.1 hr
    simpa using hb r₀ hr₀
  | purge _ hp =>
    rw [hp] at hr
    exact hb r (List.mem_filter.1 hr).1

/-! ## Runs -/

/-- A hub of a run is in range when the run starts in range and the clock at its end, moved on by
the time to live, is too. -/
theorem clockFits_of_le (httl : 0 ≤ h.settings.codeTtl) (hstart : int64Min ≤ h.now.nanos) {n : Int}
    (hle : h.now.nanos ≤ n) (hend : n + h.settings.codeTtl ≤ int64Max) : h.ClockFits := by
  refine ⟨⟨hstart, by omega⟩, ⟨by simp only [Instant.add]; omega, ?_⟩⟩
  simp only [Instant.add]
  omega

/-- A fresh issue of `c₂` for the pair shields every other code behind it, when the rows of the pair
are no newer than the clock. -/
theorem shielded_of_issue (hf : h.ClockFits) (hb : h.Bounded o t) (hopen : h.store.closed = false)
    {op : PickupOp} (hop : op = .send o t ∨ op = .resend o t)
    (hdraw : h.codes = c₂ :: (op.run h).2.codes) (hne : c₁ ≠ c₂) :
    (op.run h).2.Shielded o t c₁ c₂ := by
  obtain ⟨email, hp⟩ := PickupOp.codesOf_of_draw hop hopen hdraw
  have hstored := Instant.toStored_eq hf.1
  -- the fresh row is `R`, with every row before it no newer
  refine ShieldedRows.mono (.inl ⟨h.store.codesOf o t, h.freshRow o t c₂ email, [], hp, rfl,
    rfl, ?_, ?_⟩) (Int.le_refl _)
  · intro r hr
    rw [List.mem_singleton.1 hr]
    exact Ne.symm hne
  · intro r hr _
    have := hb r hr
    simp only [freshRow, hstored, Instant.toStored_eq hf.2]
    simp only [Instant.add]
    omega

section Runs

variable (httl : 0 ≤ h.settings.codeTtl)

include httl in
theorem bounded_exec (ops : List PickupOp) (hb : h.Bounded o t) (hstart : int64Min ≤ h.now.nanos)
    (hend : (h.exec ops).now.nanos + h.settings.codeTtl ≤ int64Max) : (h.exec ops).Bounded o t := by
  induction ops generalizing h with
  | nil => exact hb
  | cons op ops ih =>
    have hset := PickupOp.settings_run op (h := h)
    have hle₁ := PickupOp.now_le_run op (h := h)
    have hle₂ := now_le_exec (op.run h).2 ops
    have hf : h.ClockFits := clockFits_of_le httl hstart (Int.le_trans hle₁ hle₂) hend
    exact ih (hset ▸ httl) (bounded_run hf hb op) (Int.le_trans hstart hle₁)
      (by rw [hset]; exact hend)

include httl in
theorem shielded_exec (ops : List PickupOp) (hs : h.Shielded o t c₁ c₂) (hspent : c₁ ∉ h.codes)
    (hkept : (.verify o t c₂, some .verified) ∉ h.trace ops) (hstart : int64Min ≤ h.now.nanos)
    (hend : (h.exec ops).now.nanos + h.settings.codeTtl ≤ int64Max) :
    (h.exec ops).Shielded o t c₁ c₂ := by
  induction ops generalizing h with
  | nil => exact hs
  | cons op ops ih =>
    have hset := PickupOp.settings_run op (h := h)
    have hle₁ := PickupOp.now_le_run op (h := h)
    have hle₂ := now_le_exec (op.run h).2 ops
    have hf : h.ClockFits := clockFits_of_le httl hstart (Int.le_trans hle₁ hle₂) hend
    have hf' : (op.run h).2.ClockFits := clockFits_of_le (hset ▸ httl)
      (Int.le_trans hstart hle₁) hle₂ (by rw [hset]; exact hend)
    simp only [trace_cons, List.mem_cons, not_or] at hkept
    exact ih (hset ▸ httl) (shielded_run hs hspent hf.1 op hf'.1 (Ne.symm hkept.1))
      (fun hc => hspent (PickupOp.codes_run_subset op h hc)) hkept.2 (Int.le_trans hstart hle₁)
      (by rw [hset]; exact hend)

end Runs

/-! ## Superseded codes after a run -/

/-- In a run from a hub with no rows of a pair, whose clock stays in the range the store holds, a
fresh issue of `c₂` for the pair supersedes every other code `c₁` not handed out again: each
later verification of `c₁` answers `invalidCode` or `expired`, as long as no verification of `c₂`
was accepted after the issue. -/
theorem superseded_code_refused {before after : List PickupOp} {issue : PickupOp}
    (hopen : h.store.closed = false) (hnew : h.store.codesOf o t = [])
    (hissue : issue = .send o t ∨ issue = .resend o t)
    (hdraw : (h.exec before).codes = c₂ :: (issue.run (h.exec before)).2.codes)
    (hne : c₁ ≠ c₂) (hspent : c₁ ∉ (issue.run (h.exec before)).2.codes)
    (hkept : (.verify o t c₂, some .verified) ∉ (issue.run (h.exec before)).2.trace after)
    (httl : 0 ≤ h.settings.codeTtl) (hstart : int64Min ≤ h.now.nanos)
    (hend : (h.exec (before ++ issue :: after)).now.nanos + h.settings.codeTtl ≤ int64Max) :
    ((h.exec (before ++ issue :: after)).verify o t c₁).1 = .invalidCode ∨
      ((h.exec (before ++ issue :: after)).verify o t c₁).1 = .expired := by
  -- the hub at the issue, the hub after it, and the hub at the end
  have hfinal : h.exec (before ++ issue :: after) = (issue.run (h.exec before)).2.exec after := by
    rw [exec_append]
    rfl
  rw [hfinal] at hend ⊢
  have hset₁ := exec_settings h before
  have hset₂ := (PickupOp.settings_run issue (h := h.exec before)).trans hset₁
  have hle₁ := now_le_exec h before
  have hle₂ := PickupOp.now_le_run issue (h := h.exec before)
  have hle₃ := now_le_exec (issue.run (h.exec before)).2 after
  -- when `c₂` is issued no row of the pair is newer than the clock, so `c₁` gets shielded
  have hb : (h.exec before).Bounded o t :=
    bounded_exec httl before (by simp [Bounded, hnew]) hstart (by omega)
  have hf₁ : (h.exec before).ClockFits :=
    clockFits_of_le (hset₁ ▸ httl) (by omega) (Int.le_trans hle₂ hle₃) (by rw [hset₁]; exact hend)
  have hs := shielded_of_issue hf₁ hb ((exec_closed h before).trans hopen) hissue hdraw hne
  -- the shield lasts to the end of the run, where `c₁` is not accepted
  have hs' := shielded_exec (hset₂ ▸ httl) after hs hspent hkept (by omega)
    (by rw [hset₂]; exact hend)
  have hnow : ((issue.run (h.exec before)).2.exec after).now.Storable :=
    ⟨by omega, by omega⟩
  have hopen' : ((issue.run (h.exec before)).2.exec after).store.closed = false := by
    rw [exec_closed, PickupOp.closed_run, exec_closed, hopen]
  obtain ⟨out, hout, hv⟩ := verify_of_not_accepts hopen' fun otp => hs'.not_accepts hnow
  rw [hv]
  exact hout

/-- Sending `111111` and, a minute later, `222222` supersedes `111111`. -/
theorem superseded_code_refused_demo :
    (((pickupDemo (Instant.ofCivil 2024 1 1 0 0 0 0) ["111111", "222222"]).exec
        ([.send "O1" "T1", .advance 60000000000] ++ [.send "O1" "T1"])).verify
          "O1" "T1" "111111").1 = .invalidCode ∨
    (((pickupDemo (Instant.ofCivil 2024 1 1 0 0 0 0) ["111111", "222222"]).exec
        ([.send "O1" "T1", .advance 60000000000] ++ [.send "O1" "T1"])).verify
          "O1" "T1" "111111").1 = .expired :=
  @superseded_code_refused _ _ _ _ "222222" _ _ _ rfl rfl (.inl rfl) (by decide) (by decide)
    (by decide) (by simp) (by decide) (by decide) (by decide)

/-- Verifying the newer code revives the older one: after `111111` and then `222222` are sent a
minute apart and `222222` is verified, `111111` is accepted. -/
theorem superseded_code_revived :
    ((pickupDemo (Instant.ofCivil 2024 1 1 0 0 0 0) ["111111", "222222"]).exec
        [.send "O1" "T1", .advance 60000000000]).codes =
      "222222" :: ((pickupDemo (Instant.ofCivil 2024 1 1 0 0 0 0) ["111111", "222222"]).exec
        [.send "O1" "T1", .advance 60000000000, .send "O1" "T1"]).codes ∧
    (((pickupDemo (Instant.ofCivil 2024 1 1 0 0 0 0) ["111111", "222222"]).exec
        [.send "O1" "T1", .advance 60000000000, .send "O1" "T1", .verify "O1" "T1" "222222"]).verify
          "O1" "T1" "111111").1 = .verified :=
  ⟨by decide, by decide⟩

end Hub

end DeliveryFleet
