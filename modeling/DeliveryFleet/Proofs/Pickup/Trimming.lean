import DeliveryFleet.Proofs.Pickup.ResendWindow

/-!
# Cleanups a later resend does not see

A cleanup deletes the rows that expired and left the resend window. What a later resend reads of
the rows, how many were created since its window's start and which is the newest active one, never
takes in such a row. So a cleanup inserted into a run changes neither what a later resend answers
nor the rows it writes, as long as no pickup is completed in between
(`Hub.resend_unchanged_by_cleanups`).

The hub of the run with cleanups inserted is the other hub trimmed (`Hub.TrimmedTo`): the same but
for the counters and for rows that are dead at the clock. Every operation but completing a pickup
keeps the relation (`Hub.trimmedTo_run`):

* sends and resends write the same rows whatever dead rows they start from (`Attempt.Moves`, an
  attempt that appends the same rows to any code rows it is started with);
* a verification reads the newest unverified row of its code. When that row is dead, every
  unverified row of the code has expired too, because the rows of a pair are in creation order
  and, among the unverified rows of one code, in expiry order (`Hub.Ordered`); both hubs refuse.

Completing a pickup is the exception: a cleanup deletes verified rows too, a completion that no
longer finds one answers `notVerified` and leaves the order open, and a later resend sees that
(`Hub.cleanup_reopens_resend`).
-/

namespace DeliveryFleet

/-! ## Rows in creation order -/

/-- `a` comes no later than `b`: it was created no later, and when both are unverified rows of one
code it expires no later. -/
def CodeRow.Precedes (a b : CodeRow) : Prop :=
  a.createdAt ≤ b.createdAt ∧
    (a.code = b.code → a.verified = false → b.verified = false → a.expiresAt ≤ b.expiresAt)

/-- Among rows in creation order, the newest row passing a test of unverified rows expires no
sooner than any other passing row of its code. -/
theorem expiresAt_le_newest {l : List CodeRow} (hord : l.Pairwise CodeRow.Precedes)
    {q : CodeRow → Bool} (hq : ∀ r, q r = true → r.verified = false) {p x : CodeRow}
    (hp : newest? (l.filter q) = some p) (hx : x ∈ l.filter q) (hc : x.code = p.code) :
    x.expiresAt ≤ p.expiresAt := by
  have hpv := hq p (List.mem_filter.1 (newest?_mem hp)).2
  have hxv := hq x (List.mem_filter.1 hx).2
  obtain ⟨l₁, l₂, hsplit⟩ := List.append_of_mem hx
  have hord' := hord.filter q
  rw [hsplit] at hp hord'
  obtain ⟨-, hlate⟩ := newest?_append_cons hp
  -- `p` is `x` or comes after it: a row before `x` was created no later than `x`
  have hafter : p ∈ x :: l₂ := by
    rcases hlate with hin | hlt
    · exact hin
    · rcases List.mem_append.1 (newest?_mem hp) with hp₁ | hp₂
      · have := ((List.pairwise_append.1 hord').2.2 p hp₁ x List.mem_cons_self).1
        omega
      · exact hp₂
  rcases List.mem_cons.1 hafter with rfl | hp₂
  · exact Int.le_refl _
  · exact ((List.pairwise_cons.1 (List.pairwise_append.1 hord').2.1).1 p hp₂).2 hc hxv hpv

/-- The row a resend copies, the newest active one, expires no sooner than any unverified row of
its code. -/
theorem expiresAt_le_active {l : List CodeRow} (hord : l.Pairwise CodeRow.Precedes) {now : Int}
    {prev a : CodeRow} (hl : newest? (l.filter (CodeRow.activeAt now)) = some prev) (ha : a ∈ l)
    (hc : a.code = prev.code) (hv : a.verified = false) : a.expiresAt ≤ prev.expiresAt := by
  have hprev : now < prev.expiresAt := by
    have := (List.mem_filter.1 (newest?_mem hl)).2
    simp only [CodeRow.activeAt, Bool.and_eq_true, decide_eq_true_eq] at this
    exact this.2
  by_cases hx : now < a.expiresAt
  · refine expiresAt_le_newest hord (fun r hr => ?_) hl (List.mem_filter.2 ⟨ha, ?_⟩) hc
    · simp only [CodeRow.activeAt, Bool.and_eq_true, Bool.not_eq_eq_eq_not, Bool.not_true] at hr
      exact hr.1
    · simp [CodeRow.activeAt, hv, hx]
  · omega

/-- The newest row of a list is the newest of any part of it that keeps that row. -/
theorem newest?_filter_of_keep {l : List CodeRow} {r : CodeRow} (h : newest? l = some r)
    {p : CodeRow → Bool} (hp : p r = true) : newest? (l.filter p) = some r := by
  induction l using List.reverseRecOn generalizing r with
  | nil => simp at h
  | append_singleton l y ih =>
    rw [newest?_append_singleton] at h
    rw [List.filter_append]
    cases hb : newest? l with
    | none =>
      rw [hb] at h
      obtain rfl := Option.some.inj h
      rw [newest?_eq_none_iff.1 hb]
      simp only [List.filter_nil, List.filter_cons, hp, if_true, List.nil_append]
      rfl
    | some b =>
      rw [hb] at h
      dsimp only at h
      by_cases hby : b.createdAt ≤ y.createdAt
      · -- the newest is `y`, and no kept row of `l` is newer than `b`
        rw [if_pos hby] at h
        obtain rfl := Option.some.inj h
        simp only [List.filter_cons, hp, if_true, List.filter_nil]
        rw [newest?_append_singleton]
        split
        · rename_i b' hb'
          have := createdAt_le_newest? hb (List.mem_filter.1 (newest?_mem hb')).1
          rw [if_pos (Int.le_trans this hby)]
        · rfl
      · rw [if_neg hby] at h
        obtain rfl := Option.some.inj h
        have ih' := ih hb hp
        by_cases hy : p y = true
        · simp only [List.filter_cons, hy, if_true, List.filter_nil]
          rw [newest?_append_singleton, ih']
          exact if_neg hby
        · simp [hy, ih']

namespace Store

theorem newest_of_latestActive {s : Store} {o t : String} {now : Int} {r : CodeRow}
    (h : s.latestActive o t now = .ok (some r)) :
    newest? ((s.codesOf o t).filter (CodeRow.activeAt now)) = some r := by
  cases hs : s.closed
  · rw [latestActive_of_open hs] at h
    exact Except.ok.inj h
  · simp [latestActive, guard, hs] at h

end Store

namespace Hub

variable {h : Hub} {o t : String}

/-- The rows of a pair are in creation order, and the unverified rows of one code in expiry
order. -/
def Ordered (o t : String) (h : Hub) : Prop := (h.store.codesOf o t).Pairwise CodeRow.Precedes

/-- Every operation keeps the rows of a pair in order, while no row is newer than the clock and the
clock fits the store's range. -/
theorem ordered_run (hf : h.ClockFits) (hb : h.Bounded o t) (hord : h.Ordered o t)
    (op : PickupOp) : (op.run h).2.Ordered o t := by
  unfold Ordered
  have hstored := Instant.toStored_eq hf.1
  cases PickupOp.pairStep o t op h with
  | keep hp => rw [hp]; exact hord
  | fresh c email _ _ hp =>
    -- the fresh row is created now and expires a time to live from now: no row is later
    rw [hp, List.pairwise_append]
    refine ⟨hord, List.pairwise_singleton _ _, fun a ha b hb' => ?_⟩
    obtain rfl := List.mem_singleton.1 hb'
    have := hb a ha
    simp only [CodeRow.Precedes, freshRow]
    rw [hstored, Instant.toStored_eq hf.2]
    exact ⟨this.1, fun _ _ _ => this.2⟩
  | copy prev email _ hl hp =>
    -- the copy keeps the expiry of the newest active row
    rw [hp, List.pairwise_append]
    refine ⟨hord, List.pairwise_singleton _ _, fun a ha b hb' => ?_⟩
    obtain rfl := List.mem_singleton.1 hb'
    refine ⟨by simp only [copyRow, hstored]; exact (hb a ha).1, fun hc hv _ => ?_⟩
    simp only [copyRow] at hc ⊢
    exact expiresAt_le_active hord (Store.newest_of_latestActive hl) ha hc hv
  | mark o' t' c otp _ _ hp =>
    rw [hp]
    refine hord.map _ fun a b hab => ⟨by simpa using hab.1, fun hc hva hvb => ?_⟩
    simp only [Store.markRow_code, Store.markRow_verified, Bool.or_eq_false_iff,
      Store.markRow_expiresAt] at hc hva hvb ⊢
    exact hab.2 hc hva.1 hvb.1
  | purge _ hp =>
    rw [hp]
    exact hord.filter _

theorem ordered_exec (httl : 0 ≤ h.settings.codeTtl) (ops : List PickupOp) (hb : h.Bounded o t)
    (hord : h.Ordered o t) (hstart : int64Min ≤ h.now.nanos)
    (hend : (h.exec ops).now.nanos + h.settings.codeTtl ≤ int64Max) : (h.exec ops).Ordered o t := by
  induction ops generalizing h with
  | nil => exact hord
  | cons op ops ih =>
    have hset := PickupOp.settings_run op (h := h)
    have hle₁ := PickupOp.now_le_run op (h := h)
    have hle₂ := now_le_exec (op.run h).2 ops
    have hf : h.ClockFits := clockFits_of_le httl hstart (Int.le_trans hle₁ hle₂) hend
    exact ih (hset ▸ httl) (bounded_run hf hb op) (ordered_run hf hb hord op)
      (Int.le_trans hstart hle₁) (by rw [hset]; exact hend)

end Hub

/-! ## Attempts that append the same rows from any code rows -/

namespace Hub

/-- The hub with other code rows and other counters. -/
def reshape (h : Hub) (l : List CodeRow) (n : Counters) : Hub :=
  { h with store := { h.store with codes := l }, counters := n }

variable (h : Hub) (l : List CodeRow) (n : Counters)

@[simp] theorem reshape_now : (h.reshape l n).now = h.now := rfl
@[simp] theorem reshape_settings : (h.reshape l n).settings = h.settings := rfl
@[simp] theorem reshape_codes : (h.reshape l n).codes = h.codes := rfl
@[simp] theorem reshape_outbox : (h.reshape l n).outbox = h.outbox := rfl
@[simp] theorem reshape_store : (h.reshape l n).store = { h.store with codes := l } := rfl

theorem sendMail_reshape (m : Letter) :
    (h.reshape l n).sendMail m = ((h.sendMail m).1, (h.sendMail m).2.reshape l n) := by
  unfold sendMail
  dsimp only [reshape_settings]
  split
  · rfl
  · split <;> rfl

end Hub

namespace Attempt

open Hub

variable {α β : Type}

/-- Run at `h`, an attempt appends `added` to the code rows; run at `h` with the code rows `l` and
any counters instead, it answers the same, leaves the same hub, and appends the same rows to
`l`. -/
def Moves (a : Attempt α) (h : Hub) (l : List CodeRow) : Prop :=
  ∃ added, (a.run.run h).2.store.codes = h.store.codes ++ added ∧
    ∀ n, a.run.run (h.reshape l n) = ((a.run.run h).1, (a.run.run h).2.reshape (l ++ added) n)

/-- An attempt that moves alike from every hub and every code rows: it never reads the rows. -/
def Transports (a : Attempt α) : Prop := ∀ h l, Moves a h l

variable {h : Hub} {l : List CodeRow}

theorem moves_pure (x : α) (h : Hub) (l : List CodeRow) : Moves (pure x : Attempt α) h l :=
  ⟨[], by simp, fun n => by simp⟩

theorem Moves.bind {x : Attempt α} {f : α → Attempt β} (hx : Moves x h l)
    (hf : ∀ a added, (x.run.run h).1 = .ok a →
      (x.run.run h).2.store.codes = h.store.codes ++ added →
      Moves (f a) (x.run.run h).2 (l ++ added)) :
    Moves (x >>= f) h l := by
  obtain ⟨added, hc, hr⟩ := hx
  rcases hres : x.run.run h with ⟨_ | a, h₁⟩
  · rw [hres] at hc hr
    exact ⟨added, by rw [run_bind, hres]; exact hc, fun n => by rw [run_bind, run_bind, hr n, hres]⟩
  · rw [hres] at hc hr
    dsimp only at hc hr
    simp only [hres] at hf
    obtain ⟨added₂, hc₂, hr₂⟩ := hf a added rfl hc
    refine ⟨added ++ added₂, ?_, fun n => ?_⟩
    · rw [run_bind, hres]
      simp only [hc₂, hc, List.append_assoc]
    · rw [run_bind, run_bind, hr n, hres]
      simp only [hr₂ n, List.append_assoc]

theorem Transports.bind {x : Attempt α} {f : α → Attempt β} (hx : Transports x)
    (hf : ∀ a, Transports (f a)) : Transports (x >>= f) :=
  fun h l => (hx h l).bind fun a _ _ _ => hf a _ _

/-- Reading the hub is harmless when what follows reads nothing the rows and counters change. -/
theorem moves_get_bind {k : Hub → Attempt β} (hk : ∀ n, k (h.reshape l n) = k h)
    (hm : Moves (k h) h l) : Moves (get >>= k) h l := by
  obtain ⟨added, hc, hr⟩ := hm
  refine ⟨added, by simpa only [run_bind, run_get] using hc, fun n => ?_⟩
  simp only [run_bind, run_get, hk n]
  exact hr n

/-- A query that answers alike from the rows `l` is harmless. -/
theorem moves_query_bind {f : Store → Except StoreError α} {k : α → Attempt β}
    (hf : f { h.store with codes := l } = f h.store) (hk : ∀ a, f h.store = .ok a → Moves (k a) h l) :
    Moves (query f >>= k) h l := by
  cases hq : f h.store with
  | error e =>
    exact ⟨[], by simp [hq, -ExceptT.run_bind], fun n => by simp [hf, hq, -ExceptT.run_bind]⟩
  | ok a =>
    obtain ⟨added, hc, hr⟩ := hk a hq
    exact ⟨added, by simpa [hq, -ExceptT.run_bind] using hc,
      fun n => by simpa [hf, hq, -ExceptT.run_bind] using hr n⟩

theorem transports_nextCode : Transports nextCode := fun h l => by
  refine ⟨[], ?_, fun n => ?_⟩ <;> rw [run_nextCode] <;> cases hc : h.codes
  all_goals simp [run_nextCode, hc] <;> rfl

theorem transports_insert (r : CodeRow) : Transports (insert r) := fun h l => by
  cases hs : h.store.closed
  · exact ⟨[r], by simp [run_insert, hs], fun n => by simp [run_insert, hs]; rfl⟩
  · exact ⟨[], by simp [run_insert, hs], fun n => by simp [run_insert, hs]⟩

theorem transports_deliver (oc c e : String) (x : Instant) : Transports (deliver oc c e x) :=
  fun h l => by
    refine ⟨[], by simpa using congrArg (·.1.codes) (deliver_preserves oc c e x h), fun n => ?_⟩
    unfold deliver
    simp only [run_bind, run_get, reshape_settings, reshape_now, sendMail_reshape]
    split
    · simp
    · split <;> simp <;> rfl

theorem transports_issue (order : OrderRow) (o t : String) : Transports (issue order o t) :=
  fun h l => by
    unfold issue
    refine (transports_nextCode h l).bind fun c _ _ _ => moves_get_bind (fun _ => rfl) ?_
    refine (transports_insert _ _ _).bind fun _ _ _ _ => (transports_deliver _ _ _ _ _ _).bind ?_
    intro b _ _ _
    split <;> exact moves_pure _ _ _

theorem transports_lookup (o t : String) : Transports (lookup o t) := fun h l => by
  unfold lookup
  refine moves_query_bind rfl fun order _ => ?_
  split
  · refine moves_query_bind rfl fun trip _ => ?_
    split
    · split <;> exact moves_pure _ _ _
    · exact moves_pure _ _ _
  · exact moves_pure _ _ _

theorem transports_eligible (o t : String) : Transports (eligible o t) := by
  unfold eligible
  refine (transports_lookup o t).bind fun r h l => ?_
  split
  · exact moves_pure _ _ _
  · split
    · exact moves_pure _ _ _
    · split <;> exact moves_pure _ _ _

theorem transports_send (o t : String) : Transports (send o t) := by
  unfold send
  refine (transports_eligible o t).bind fun r h l => ?_
  split
  · exact moves_pure _ _ _
  · exact transports_issue _ _ _ _ _

/-- A resend moves alike from the rows `l` when they give the same count since the window's start
and the same newest active row as the hub's own rows. -/
theorem moves_resend {o t : String}
    (hcount : ({ h.store with codes := l } : Store).countCreatedSince o t
        (h.now.add (-h.settings.resendWindow)).toStored =
      h.store.countCreatedSince o t (h.now.add (-h.settings.resendWindow)).toStored)
    (hactive : ({ h.store with codes := l } : Store).latestActive o t h.now.toStored =
      h.store.latestActive o t h.now.toStored) :
    Moves (resend o t) h l := by
  unfold resend
  refine (transports_eligible o t h l).bind fun r added _ hc => ?_
  -- the eligibility check leaves the hub as it was
  have he : ((eligible o t).run.run h).2 = h := eligible_state o t h
  rw [he] at hc ⊢
  obtain rfl : added = [] := by simpa using hc
  rw [List.append_nil]
  split
  · exact moves_pure _ _ _
  · refine moves_get_bind (fun _ => rfl) (moves_query_bind hcount fun count _ => ?_)
    split
    · exact moves_pure _ _ _
    · refine moves_query_bind hactive fun prev _ => ?_
      split
      · exact transports_issue _ _ _ _ _
      · refine (transports_insert _ _ _).bind fun _ _ _ _ =>
          (transports_deliver _ _ _ _ _ _).bind fun b _ _ _ => ?_
        split <;> exact moves_pure _ _ _

end Attempt

namespace Hub

open Attempt

variable {h : Hub} {l : List CodeRow}

/-- A pickup operation whose attempt moves alike from the rows `l` answers the same from them and
appends the same rows, whatever the counters. -/
theorem runPickup_reshape {a : Attempt Outcome} (hm : Moves a h l) (op : String) :
    ∃ added, (h.runPickup op a).2.store.codes = h.store.codes ++ added ∧
      ∀ n, ∃ n', (h.reshape l n).runPickup op a =
        ((h.runPickup op a).1, (h.runPickup op a).2.reshape (l ++ added) n') := by
  obtain ⟨added, hc, hr⟩ := hm
  refine ⟨added, by simpa [runPickup_eq] using hc, fun n =>
    ⟨{ n with pickup := n.pickup.bump (op ++ "/" ++ (h.runPickup op a).1.name) }, ?_⟩⟩
  rw [runPickup_eq, runPickup_eq, hr n]
  rfl

end Hub

/-! ## Trimming dead rows -/

namespace PickupOp

/-- The rows an operation appends were created at the clock it ran at. -/
theorem createdAt_of_append {op : PickupOp} {h : Hub} {added : List CodeRow}
    (hc : (op.run h).2.store.codes = h.store.codes ++ added) :
    ∀ r ∈ added, r.createdAt = h.now.toStored := by
  -- an operation that appends no row has `added = []`
  have none_added : added = [] → ∀ r ∈ added, r.createdAt = h.now.toStored := by
    rintro rfl r hr
    simp at hr
  cases rowStep op h with
  | keep hrows _ => exact none_added (by simpa using hrows.symm.trans hc)
  | issue o t c email _ _ hrows =>
    rw [hrows] at hc
    split at hc
    · exact none_added (by simpa using hc)
    · intro r hr
      rw [List.append_cancel_left hc.symm, List.mem_singleton] at hr
      rw [hr]
      rfl
  | copy o t prev email _ _ _ hrows =>
    intro r hr
    rw [hrows] at hc
    rw [List.append_cancel_left hc.symm, List.mem_singleton] at hr
    rw [hr]
    rfl
  | mark o t c otp _ _ _ hrows =>
    have hlen := congrArg List.length hc
    rw [hrows, List.length_map, List.length_append] at hlen
    intro r hr
    have := List.length_pos_of_mem hr
    omega
  | purge _ _ _ hrows =>
    have hlen := congrArg List.length hc
    rw [hrows, List.length_append] at hlen
    have := List.length_filter_le (fun r =>
      !Store.expiredBy h.now.toStored (h.now.add (-h.settings.resendWindow)).toStored r) h.store.codes
    intro r hr
    have := List.length_pos_of_mem hr
    omega

end PickupOp

namespace Hub

variable {h h' : Hub} {o t c : String}

/-- The clock and the start of its resend window fit the store's range. -/
def WindowFits (h : Hub) : Prop :=
  h.now.Storable ∧ (h.now.add (-h.settings.resendWindow)).Storable

/-- A row is dead at a hub's clock: it expired before the clock and was created before the start of
the resend window, so a cleanup now would delete it. -/
def Dead (h : Hub) (r : CodeRow) : Prop :=
  r.expiresAt < h.now.toStored ∧ r.createdAt < (h.now.add (-h.settings.resendWindow)).toStored

/-- A dead row stays dead as the clock moves on. -/
theorem Dead.mono {h₂ : Hub} {r : CodeRow} (hd : h.Dead r) (hf : h.WindowFits)
    (hf₂ : h₂.WindowFits) (hset : h₂.settings = h.settings) (hle : h.now.nanos ≤ h₂.now.nanos) :
    h₂.Dead r := by
  obtain ⟨he, hc⟩ := hd
  rw [Instant.toStored_eq hf.1] at he
  rw [Instant.toStored_eq hf.2] at hc
  refine ⟨?_, ?_⟩
  · rw [Instant.toStored_eq hf₂.1]
    omega
  · rw [Instant.toStored_eq hf₂.2, hset]
    simp only [Instant.add] at hc ⊢
    omega

/-- `h'` is `h` with some rows left out, each dead at the clock, and with other counters. Which rows
are left out depends only on when they were created and when they expire. -/
def TrimmedTo (h h' : Hub) : Prop :=
  ∃ keep : CodeRow → Bool,
    (∀ r r' : CodeRow, r.createdAt = r'.createdAt → r.expiresAt = r'.expiresAt → keep r = keep r') ∧
    (∀ r, keep r = false → h.Dead r) ∧ ∃ n, h' = h.reshape (h.store.codes.filter keep) n

theorem trimmedTo_refl (h : Hub) : h.TrimmedTo h :=
  ⟨fun _ => true, fun _ _ _ _ => rfl, fun _ hr => by simp at hr, h.counters,
    by rw [List.filter_true]; rfl⟩

section Keep

variable {keep : CodeRow → Bool} (hd : ∀ r, keep r = false → h.Dead r)

theorem codesOf_filter (s : Store) (keep : CodeRow → Bool) (o t : String) :
    ({ s with codes := s.codes.filter keep } : Store).codesOf o t = (s.codesOf o t).filter keep := by
  simp only [Store.codesOf, List.filter_filter]
  congr 1
  funext r
  exact Bool.and_comm _ _

include hd in
/-- Leaving dead rows out changes no count since the start of the resend window. -/
theorem countCreatedSince_filter :
    ({ h.store with codes := h.store.codes.filter keep } : Store).countCreatedSince o t
        (h.now.add (-h.settings.resendWindow)).toStored =
      h.store.countCreatedSince o t (h.now.add (-h.settings.resendWindow)).toStored := by
  have hsame : ((h.store.codesOf o t).filter fun r =>
        decide ((h.now.add (-h.settings.resendWindow)).toStored ≤ r.createdAt) && keep r) =
      (h.store.codesOf o t).filter fun r =>
        decide ((h.now.add (-h.settings.resendWindow)).toStored ≤ r.createdAt) := by
    apply List.filter_congr
    intro r _
    cases hk : keep r
    · simp [(hd r hk).2]
    · simp
  simp only [Store.countCreatedSince, Store.guard, codesOf_filter, List.filter_filter, hsame]

include hd in
/-- Leaving dead rows out changes no newest active row. -/
theorem latestActive_filter :
    ({ h.store with codes := h.store.codes.filter keep } : Store).latestActive o t h.now.toStored =
      h.store.latestActive o t h.now.toStored := by
  have hsame : ((h.store.codesOf o t).filter fun r =>
        (!r.verified && decide (h.now.toStored < r.expiresAt)) && keep r) =
      (h.store.codesOf o t).filter fun r => !r.verified && decide (h.now.toStored < r.expiresAt) := by
    apply List.filter_congr
    intro r _
    cases hk : keep r
    · have := (hd r hk).1
      simp [Int.not_lt.2 (Int.le_of_lt this)]
    · simp
  simp only [Store.latestActive, Store.guard, codesOf_filter, List.filter_filter, hsame]

include hd in
/-- Rows created at the clock are never dead, while the window has no negative length. -/
theorem filter_created_now (hW : 0 ≤ h.settings.resendWindow) (hf : h.WindowFits)
    {added : List CodeRow} (hnew : ∀ r ∈ added, r.createdAt = h.now.toStored) :
    added.filter keep = added := by
  refine List.filter_eq_self.2 fun r hr => ?_
  by_contra hk
  have := (hd r (by simpa using hk)).2
  rw [hnew r hr, Instant.toStored_eq hf.1, Instant.toStored_eq hf.2] at this
  simp only [Instant.add] at this
  omega

end Keep

theorem filter_comm (l : List CodeRow) (p q : CodeRow → Bool) :
    (l.filter p).filter q = (l.filter q).filter p := by
  simp only [List.filter_filter, Bool.and_comm]

/-! ## One operation on a trimmed hub -/

/-- Counting keeps a hub trimmed. -/
theorem TrimmedTo.countPickup (htr : h.TrimmedTo h') (op s op' s' : String) :
    (h.countPickup op s).TrimmedTo (h'.countPickup op' s') := by
  obtain ⟨keep, hk, hd, n, rfl⟩ := htr
  exact ⟨keep, hk, hd, { n with pickup := n.pickup.bump (op' ++ "/" ++ s') }, rfl⟩

/-- A cleanup of the trimmed hub alone leaves out more dead rows. -/
theorem trimmedTo_cleanup_right (htr : h.TrimmedTo h') : h.TrimmedTo h'.cleanup.2 := by
  obtain ⟨keep, hk, hd, n, rfl⟩ := htr
  rw [cleanup_eq]
  split
  · exact TrimmedTo.countPickup ⟨keep, hk, hd, n, rfl⟩ "" "" "cleanup" "SERVER_ERROR"
  · refine ⟨fun r => !Store.expiredBy h.now.toStored
      (h.now.add (-h.settings.resendWindow)).toStored r && keep r, ?_, ?_, n, ?_⟩
    · intro r r' hc he
      simp [Store.expiredBy, hc, he, hk r r' hc he]
    · intro r hr
      rcases Bool.and_eq_false_iff.1 hr with hx | hkr
      · simpa [Store.expiredBy, Dead] using hx
      · exact hd r hkr
    · simp only [reshape, List.filter_filter]

theorem trimmedTo_cleanup (htr : h.TrimmedTo h') : h.cleanup.2.TrimmedTo h'.cleanup.2 := by
  obtain ⟨keep, hk, hd, n, rfl⟩ := htr
  rw [cleanup_eq, cleanup_eq, reshape_store]
  by_cases hs : h.store.closed = true
  · rw [if_pos hs, if_pos hs]
    exact TrimmedTo.countPickup ⟨keep, hk, hd, n, rfl⟩ _ _ _ _
  · rw [if_neg hs, if_neg hs]
    refine ⟨keep, hk, hd, n, ?_⟩
    simp only [reshape, filter_comm]

theorem trimmedTo_advance (htr : h.TrimmedTo h') (d : Nat) (hf : h.WindowFits)
    (hf₂ : ({ h with now := h.now.add d } : Hub).WindowFits) :
    ({ h with now := h.now.add d } : Hub).TrimmedTo { h' with now := h'.now.add d } := by
  obtain ⟨keep, hk, hd, n, rfl⟩ := htr
  refine ⟨keep, hk, fun r hr => (hd r hr).mono hf hf₂ rfl ?_, n, rfl⟩
  simp only [Instant.add]
  omega

/-- A pickup operation whose attempt moves alike from the rows left after trimming keeps the hub
trimmed: it appends the same rows to both, each created now and so never dead. -/
theorem trimmedTo_of_moves {keep : CodeRow → Bool}
    (hk : ∀ r r' : CodeRow, r.createdAt = r'.createdAt → r.expiresAt = r'.expiresAt → keep r = keep r')
    (hd : ∀ r, keep r = false → h.Dead r) (n : Counters) (hW : 0 ≤ h.settings.resendWindow)
    (hf : h.WindowFits) (op : PickupOp) {name : String} {a : Attempt Outcome}
    (hrun : ∀ x : Hub, (op.run x).2 = (x.runPickup name a).2) (hadv : ∀ d, op ≠ .advance d)
    (hm : Attempt.Moves a h (h.store.codes.filter keep)) :
    (op.run h).2.TrimmedTo (op.run (h.reshape (h.store.codes.filter keep) n)).2 := by
  obtain ⟨added, hc, hr⟩ := runPickup_reshape hm name
  obtain ⟨n', he⟩ := hr n
  rw [← hrun] at hc
  have hfr := PickupOp.frame_run hadv (h := h)
  simp only [frame, Prod.mk.injEq] at hfr
  refine ⟨keep, hk, fun r hr => ?_, n', ?_⟩
  · unfold Dead
    rw [hfr.1, hfr.2.1]
    exact hd r hr
  · rw [hrun (h.reshape _ n), he, hc, List.filter_append,
      filter_created_now hd hW hf (PickupOp.createdAt_of_append hc), hrun h]

theorem trimmedTo_send (htr : h.TrimmedTo h') (hW : 0 ≤ h.settings.resendWindow)
    (hf : h.WindowFits) : (h.send o t).2.TrimmedTo (h'.send o t).2 := by
  obtain ⟨keep, hk, hd, n, rfl⟩ := htr
  exact trimmedTo_of_moves hk hd n hW hf (.send o t) (fun _ => rfl) (fun _ => by simp)
    (Attempt.transports_send o t h _)

theorem trimmedTo_resend (htr : h.TrimmedTo h') (hW : 0 ≤ h.settings.resendWindow)
    (hf : h.WindowFits) : (h.resend o t).2.TrimmedTo (h'.resend o t).2 := by
  obtain ⟨keep, hk, hd, n, rfl⟩ := htr
  exact trimmedTo_of_moves hk hd n hW hf (.resend o t) (fun _ => rfl) (fun _ => by simp)
    (Attempt.moves_resend (countCreatedSince_filter hd) (latestActive_filter hd))

/-- Leaving dead rows out changes no verification: when the newest unverified row of the code is
dead, every unverified row of the code has expired, since they expire in order. -/
theorem accepts_filter_iff {keep : CodeRow → Bool} (hd : ∀ r, keep r = false → h.Dead r)
    (hord : h.Ordered o t) (hnow : h.now.Storable) (n : Counters) :
    (∃ otp, h.Accepts o t c otp) ↔
      ∃ otp, (h.reshape (h.store.codes.filter keep) n).Accepts o t c otp := by
  have hactive := latestActive_filter hd (o := o) (t := t)
  constructor
  · rintro ⟨otp, ha⟩
    have hx : h.now.toStored < otp.expiresAt := by
      rw [Instant.toStored_eq hnow]
      exact Instant.nanos_lt_of_before_ofStored hnow ha.unexpired
    -- the row it accepts has not expired, so it was not left out
    have hkeep : keep otp = true := by
      by_contra hk
      have := (hd otp (by simpa using hk)).1
      omega
    have hcand := ha.candidate
    rw [Store.latestUnverified_of_open ha.open_] at hcand
    refine ⟨otp, ha.open_, ?_, ha.unexpired, fun latest hl => ha.newest latest ?_⟩
    · rw [reshape_store, Store.latestUnverified_of_open
        (s := ({ h.store with codes := h.store.codes.filter keep } : Store)) ha.open_,
        codesOf_filter, filter_comm, newest?_filter_of_keep (Except.ok.inj hcand) hkeep]
    · rw [← hactive]
      exact hl
  · rintro ⟨otp', ha'⟩
    have hopen : h.store.closed = false := ha'.open_
    have hcand' := ha'.candidate
    rw [reshape_store, Store.latestUnverified_of_open
      (s := ({ h.store with codes := h.store.codes.filter keep } : Store)) hopen, codesOf_filter,
      filter_comm] at hcand'
    have hm' := (List.mem_filter.1 (newest?_mem (Except.ok.inj hcand'))).1
    obtain ⟨otp, hotp⟩ : ∃ otp, newest? ((h.store.codesOf o t).filter fun r =>
        !r.verified && r.code == c) = some otp :=
      Option.ne_none_iff_exists'.1 fun hn => by simp [newest?_eq_none_iff.1 hn] at hm'
    by_cases hkeep : keep otp = true
    · -- the newest unverified row was kept: both hubs check the same row
      obtain rfl : otp = otp' := Option.some.inj ((newest?_filter_of_keep hotp hkeep).symm.trans
        (Except.ok.inj hcand'))
      refine ⟨otp, hopen, by rw [Store.latestUnverified_of_open hopen, hotp], ha'.unexpired,
        fun latest hl => ha'.newest latest ?_⟩
      rw [reshape_store, reshape_now, hactive]
      exact hl
    · -- it was dead, and the row the trimmed hub checks expires no later
      exfalso
      have hdead := (hd otp (by simpa using hkeep)).1
      have hcode : ∀ r ∈ (h.store.codesOf o t).filter (fun r => !r.verified && r.code == c),
          r.code = c := fun r hr => by
        simpa using (Bool.and_eq_true_iff.1 (List.mem_filter.1 hr).2).2
      have hle := expiresAt_le_newest hord (fun r hr => by simpa using (Bool.and_eq_true_iff.1 hr).1)
        hotp hm' ((hcode _ hm').trans (hcode _ (newest?_mem hotp)).symm)
      have := Instant.nanos_lt_of_before_ofStored hnow ha'.unexpired
      rw [Instant.toStored_eq hnow] at hdead
      omega

theorem trimmedTo_verify (htr : h.TrimmedTo h') (hord : h.Ordered o t) (hnow : h.now.Storable) :
    (h.verify o t c).2.TrimmedTo (h'.verify o t c).2 := by
  obtain ⟨keep, hk, hd, n, rfl⟩ := htr
  have hiff := accepts_filter_iff (c := c) hd hord hnow n
  rw [verify_hub (h := h), verify_hub (h := h.reshape _ n)]
  by_cases ha : ∃ otp, h.Accepts o t c otp
  · rw [if_pos (verify_eq_verified_iff.2 ha), if_pos (verify_eq_verified_iff.2 (hiff.1 ha)),
      release_eq, release_eq]
    -- marking rows keeps which of them are left out
    have hmark : (h.store.codes.map (Store.markRow o t c h.now.toStored)).filter keep =
        (h.store.codes.filter keep).map (Store.markRow o t c h.now.toStored) := by
      rw [List.filter_map]
      congr 1
      apply List.filter_congr
      intro r _
      exact hk _ _ (Store.markRow_createdAt _ _ _ _ _) (Store.markRow_expiresAt _ _ _ _ _)
    refine ⟨keep, hk, hd,
      { n with pickup := (n.pickup.bump
        ("verify/" ++ ((h.reshape (h.store.codes.filter keep) n).verify o t c).1.name)) }, ?_⟩
    simp only [consume, countPickup, reshape, hmark]
    rfl
  · rw [if_neg fun hv => ha (verify_eq_verified_iff.1 hv),
      if_neg fun hv => ha (hiff.2 (verify_eq_verified_iff.1 hv))]
    exact TrimmedTo.countPickup ⟨keep, hk, hd, n, rfl⟩ _ _ _ _

/-- Every operation but completing a pickup keeps a hub trimmed, while the clock and the start of
its resend window fit the store's range before and after it. -/
theorem trimmedTo_run (htr : h.TrimmedTo h') (hord : ∀ o t, h.Ordered o t)
    (hW : 0 ≤ h.settings.resendWindow) (hf : h.WindowFits) {op : PickupOp}
    (hop : ∀ o t, op ≠ .complete o t) (hf' : (op.run h).2.WindowFits) :
    (op.run h).2.TrimmedTo (op.run h').2 := by
  cases op with
  | send o t => exact trimmedTo_send htr hW hf
  | resend o t => exact trimmedTo_resend htr hW hf
  | verify o t c => exact trimmedTo_verify htr (hord o t) hf.1
  | complete o t => exact absurd rfl (hop o t)
  | cleanup => exact trimmedTo_cleanup htr
  | advance d =>
    obtain ⟨keep, hk, hd, n, rfl⟩ := htr
    exact trimmedTo_advance ⟨keep, hk, hd, n, rfl⟩ d hf hf'

end Hub

/-- `ops'` is `ops` with cleanups inserted anywhere. -/
inductive PickupOp.CleanupsInserted : List PickupOp → List PickupOp → Prop
  | nil : PickupOp.CleanupsInserted [] []
  | cons (op : PickupOp) {ops ops' : List PickupOp} :
      PickupOp.CleanupsInserted ops ops' → PickupOp.CleanupsInserted (op :: ops) (op :: ops')
  | cleanup {ops ops' : List PickupOp} :
      PickupOp.CleanupsInserted ops ops' → PickupOp.CleanupsInserted ops (.cleanup :: ops')

namespace Hub

variable {h h' : Hub} {o t : String}

/-- A run and the same run with cleanups inserted, from a hub and the hub trimmed, end in a hub and
that hub trimmed, when the run completes no pickup and its clock stays in the store's range. -/
theorem trimmedTo_exec {ops ops' : List PickupOp} (hins : PickupOp.CleanupsInserted ops ops')
    (hnc : ∀ op ∈ ops, ∀ o t, op ≠ .complete o t) (htr : h.TrimmedTo h')
    (hinv : ∀ o t, h.Bounded o t ∧ h.Ordered o t) (hW : 0 < h.settings.resendWindow)
    (httl : 0 ≤ h.settings.codeTtl) (hstart : int64Min ≤ h.now.nanos - h.settings.resendWindow)
    (hend : (h.exec ops).now.nanos + h.settings.codeTtl ≤ int64Max) :
    (h.exec ops).TrimmedTo (h'.exec ops') := by
  induction hins generalizing h h' with
  | nil => exact htr
  | @cons op ops ops' _ ih =>
    have hend : ((op.run h).2.exec ops).now.nanos + h.settings.codeTtl ≤ int64Max := hend
    have hset := PickupOp.settings_run op (h := h)
    have hle₁ := PickupOp.now_le_run op (h := h)
    have hle₂ := now_le_exec (op.run h).2 ops
    have hf : h.ClockFits := clockFits_of_le httl (by omega) (Int.le_trans hle₁ hle₂) hend
    have window : ∀ x : Hub, x.settings = h.settings → h.now.nanos ≤ x.now.nanos →
        x.now.nanos ≤ ((op.run h).2.exec ops).now.nanos → x.WindowFits := fun x hx h₁ h₂ =>
      ⟨⟨by omega, by omega⟩, by constructor <;> simp only [Instant.add, hx] <;> omega⟩
    refine ih (fun op' hop' => hnc op' (List.mem_cons_of_mem _ hop'))
      (trimmedTo_run htr (fun o t => (hinv o t).2) hW.le (window h rfl (Int.le_refl _) (by omega))
        (hnc op List.mem_cons_self) (window _ hset hle₁ hle₂))
      (fun o t => ⟨bounded_run hf (hinv o t).1 op, ordered_run hf (hinv o t).1 (hinv o t).2 op⟩)
      (hset ▸ hW) (hset ▸ httl) (by rw [hset]; omega) (by rw [hset]; exact hend)
  | cleanup _ ih => exact ih hnc (trimmedTo_cleanup_right htr) hinv hW httl hstart hend

/-- A resend on a trimmed hub answers as on the hub and appends the same rows. -/
theorem resend_of_trimmedTo (htr : h.TrimmedTo h') :
    (h'.resend o t).1 = (h.resend o t).1 ∧ ∃ added,
      (h.resend o t).2.store.codes = h.store.codes ++ added ∧
      (h'.resend o t).2.store.codes = h'.store.codes ++ added := by
  obtain ⟨keep, hk, hd, n, rfl⟩ := htr
  obtain ⟨added, hc, hr⟩ := runPickup_reshape
    (Attempt.moves_resend (countCreatedSince_filter hd) (latestActive_filter hd)) "resend"
  obtain ⟨n', he⟩ := hr n
  show ((h.reshape _ n).runPickup "resend" _).1 = _ ∧
    ∃ added, _ ∧ ((h.reshape _ n).runPickup "resend" _).2.store.codes = _
  rw [he]
  exact ⟨rfl, added, hc, rfl⟩

/-! ## Cleanups inserted into a run -/

/-- From a hub with no code rows, insert cleanups anywhere into a run that completes no pickup, after
any run: a resend at its end answers the same and appends the same rows, while the clock starts
with its resend window and ends with its time to live inside the store's range. -/
theorem resend_unchanged_by_cleanups (h : Hub) (o t : String) (pre mid mid' : List PickupOp)
    (hempty : h.store.codes = []) (hW : 0 < h.settings.resendWindow)
    (httl : 0 ≤ h.settings.codeTtl) (hins : PickupOp.CleanupsInserted mid mid')
    (hnc : ∀ op ∈ mid, ∀ o t, op ≠ .complete o t)
    (hstart : int64Min ≤ h.now.nanos - h.settings.resendWindow)
    (hend : (h.exec (pre ++ mid)).now.nanos + h.settings.codeTtl ≤ int64Max) :
    ((h.exec (pre ++ mid')).resend o t).1 = ((h.exec (pre ++ mid)).resend o t).1 ∧ ∃ added,
      ((h.exec (pre ++ mid)).resend o t).2.store.codes = (h.exec (pre ++ mid)).store.codes ++ added ∧
      ((h.exec (pre ++ mid')).resend o t).2.store.codes =
        (h.exec (pre ++ mid')).store.codes ++ added := by
  rw [exec_append, exec_append] at *
  have hset := exec_settings h pre
  have hle₁ := now_le_exec h pre
  have hle₂ := now_le_exec (h.exec pre) mid
  -- every pair's rows are bounded by the clock and in order after the first part of the run
  have hinv : ∀ o t, (h.exec pre).Bounded o t ∧ (h.exec pre).Ordered o t := fun o t =>
    have hb : h.Bounded o t := by simp [Bounded, Store.codesOf, hempty]
    have ho : h.Ordered o t := by simp [Ordered, Store.codesOf, hempty]
    ⟨bounded_exec httl pre hb (by omega) (by omega),
      ordered_exec httl pre hb ho (by omega) (by omega)⟩
  exact resend_of_trimmedTo (trimmedTo_exec hins hnc (trimmedTo_refl _) hinv (hset ▸ hW)
    (hset ▸ httl) (by rw [hset]; omega) (by rw [hset]; exact hend))

/-- Completing a pickup is where a cleanup shows: a code sent and verified at the start of 2024
and cleaned up eleven minutes later leaves no verified row, the completion answers `notVerified`,
and a resend then sends a fresh code, where without the cleanup the pickup was completed and the
resend answers `alreadyPickedUp`. -/
theorem cleanup_reopens_resend :
    PickupOp.CleanupsInserted
        [.send "O1" "T1", .verify "O1" "T1" "111111", .advance 660000000000, .complete "O1" "T1"]
        [.send "O1" "T1", .verify "O1" "T1" "111111", .advance 660000000000, .cleanup,
          .complete "O1" "T1"] ∧
    (((pickupDemo (Instant.ofCivil 2024 1 1 0 0 0 0) ["111111", "222222"]).exec
        [.send "O1" "T1", .verify "O1" "T1" "111111", .advance 660000000000,
          .complete "O1" "T1"]).resend "O1" "T1").1 = .alreadyPickedUp ∧
    (((pickupDemo (Instant.ofCivil 2024 1 1 0 0 0 0) ["111111", "222222"]).exec
        [.send "O1" "T1", .verify "O1" "T1" "111111", .advance 660000000000, .cleanup,
          .complete "O1" "T1"]).resend "O1" "T1").1 = .mailFailed :=
  ⟨.cons _ (.cons _ (.cons _ (.cleanup (.cons _ .nil)))), by decide, by decide⟩

/-! ## The resend window -/

/-- While the clock and the start of its resend window fit the store's range:

* a resend that writes a row found fewer than `resendLimit` rows of the pair created within
  `[now - resendWindow, now]`;
* a cleanup keeps every row created at or after `now - resendWindow`;
* cleanups inserted anywhere into a run from a hub with no code rows change neither the answer nor
  the rows written of a later resend, when no pickup is completed between the first of them and the
  resend;
* in a run with no send of a pair, from a hub with no rows of the pair, every closed window of
  length `resendWindow` holds at most `resendLimit` rows of the pair. -/
theorem resend_window_laws :
    (∀ (h : Hub) (o t : String), (h.now.add (-h.settings.resendWindow)).Storable →
      h.store.codes.length < (h.resend o t).2.store.codes.length →
      (((h.store.codesOf o t).filter
          (CodeRow.createdWithin (h.now.nanos - h.settings.resendWindow) h.now.nanos)).length : Int) <
        h.settings.resendLimit) ∧
    (∀ h : Hub, (h.now.add (-h.settings.resendWindow)).Storable →
      h.cleanup.2.store.codes.filter
          (fun r => decide (h.now.nanos - h.settings.resendWindow ≤ r.createdAt)) =
        h.store.codes.filter (fun r => decide (h.now.nanos - h.settings.resendWindow ≤ r.createdAt))) ∧
    (∀ (h : Hub) (o t : String) (pre mid mid' : List PickupOp), h.store.codes = [] →
      0 < h.settings.resendWindow → 0 ≤ h.settings.codeTtl → PickupOp.CleanupsInserted mid mid' →
      (∀ op ∈ mid, ∀ o t, op ≠ .complete o t) →
      int64Min ≤ h.now.nanos - h.settings.resendWindow →
      (h.exec (pre ++ mid)).now.nanos + h.settings.codeTtl ≤ int64Max →
      ((h.exec (pre ++ mid')).resend o t).1 = ((h.exec (pre ++ mid)).resend o t).1 ∧ ∃ added,
        ((h.exec (pre ++ mid)).resend o t).2.store.codes =
          (h.exec (pre ++ mid)).store.codes ++ added ∧
        ((h.exec (pre ++ mid')).resend o t).2.store.codes =
          (h.exec (pre ++ mid')).store.codes ++ added) ∧
    (∀ (h : Hub) (o t : String) (ops : List PickupOp), h.store.codesOf o t = [] →
      0 < h.settings.resendWindow → 0 ≤ h.settings.resendLimit → (∀ op ∈ ops, op ≠ .send o t) →
      int64Min ≤ h.now.nanos - h.settings.resendWindow → (h.exec ops).now.nanos ≤ int64Max →
      (h.exec ops).WindowBound o t) := by
  refine ⟨fun h o t hwin hgrow => resend_writes_within_limit hwin fun he => ?_,
    fun h hwin => cleanup_keeps_window hwin,
    fun h o t pre mid mid' hempty hW httl hins hnc hstart hend =>
      resend_unchanged_by_cleanups h o t pre mid mid' hempty hW httl hins hnc hstart hend,
    fun h o t ops hnew hW hL hsend hstart hend =>
      windowBound_exec hW ops hsend (fun s => ?_) hstart hend⟩
  · rw [he] at hgrow
    exact Nat.lt_irrefl _ hgrow
  · -- no rows of the pair: every window is empty
    simpa [hnew] using hL

/-- The laws of the resend window at a hub with one trip and one order at the start of 2024: a
first resend, a cleanup, a cleanup inserted eleven minutes after a send, and four resends in a
row. -/
theorem resend_window_laws_demo :
    ((((pickupDemo (Instant.ofCivil 2024 1 1 0 0 0 0) ["111111"]).store.codesOf "O1" "T1").filter
        (CodeRow.createdWithin ((pickupDemo (Instant.ofCivil 2024 1 1 0 0 0 0) ["111111"]).now.nanos -
          120000000000) (pickupDemo (Instant.ofCivil 2024 1 1 0 0 0 0) ["111111"]).now.nanos)).length :
        Int) < 3 ∧
    (pickupDemo (Instant.ofCivil 2024 1 1 0 0 0 0) ["111111"]).cleanup.2.store.codes.filter
        (fun r => decide ((pickupDemo (Instant.ofCivil 2024 1 1 0 0 0 0) ["111111"]).now.nanos -
          120000000000 ≤ r.createdAt)) =
      (pickupDemo (Instant.ofCivil 2024 1 1 0 0 0 0) ["111111"]).store.codes.filter
        (fun r => decide ((pickupDemo (Instant.ofCivil 2024 1 1 0 0 0 0) ["111111"]).now.nanos -
          120000000000 ≤ r.createdAt)) ∧
    (((pickupDemo (Instant.ofCivil 2024 1 1 0 0 0 0) ["111111"]).exec
        ([.send "O1" "T1"] ++ [.advance 660000000000, .cleanup])).resend "O1" "T1").1 =
      (((pickupDemo (Instant.ofCivil 2024 1 1 0 0 0 0) ["111111"]).exec
        ([.send "O1" "T1"] ++ [.advance 660000000000])).resend "O1" "T1").1 ∧
    ((pickupDemo (Instant.ofCivil 2024 1 1 0 0 0 0) ["111111"]).exec
        [.resend "O1" "T1", .resend "O1" "T1", .resend "O1" "T1", .resend "O1" "T1"]).WindowBound
      "O1" "T1" := by
  obtain ⟨hresend, hcleanup, hinsert, hwindow⟩ := resend_window_laws
  refine ⟨hresend _ "O1" "T1" (by unfold Instant.Storable; decide) (by decide),
    hcleanup _ (by unfold Instant.Storable; decide),
    (hinsert _ "O1" "T1" [.send "O1" "T1"] [.advance 660000000000] [.advance 660000000000, .cleanup]
      rfl (by decide) (by decide) (.cons _ (.cleanup .nil)) (by simp) (by decide) (by decide)).1,
    hwindow _ "O1" "T1" _ rfl (by decide) (by decide) (by decide) (by decide) (by decide)⟩

end Hub

end DeliveryFleet
