import Mathlib
import DeliveryFleet.Telemetry.MergeLoop
import DeliveryFleet.Proofs.Telemetry.Coalescing

/-!
# Runs of the merge loop

Whatever events the loop takes before it drains, its run cuts what it receives into segments,
one per flush, in order (`Pipeline.start_segments`): a flush runs, of the tasks received since the
flush before, the newest under each key (`Pipeline.batchOf`, `Pipeline.mem_values_filed`). The
invariant is that the map holds the newest task under each key of the tasks received since the
last flush (`Pipeline.filed`); one event keeps it (`Pipeline.step_segment`), and the drain ends it
with the last segment.

A round of the pipeline pushes tasks onto an empty pipeline and then runs the loop with its
context cancelled (`Pipeline.round_runs_newest`). Tagging each task with its position makes the
tasks of a round distinct and their order visible: the input buffer takes the first `capacity`
pushes (`Pipeline.pushAll_eq`), and segments of a list in push order run the newest task of each
key (`Pipeline.mem_batches_of_newest`), each task at most once (`Pipeline.nodup_batches`), and
two tasks of one key in push order (`Pipeline.lt_of_mem_batches`).
-/

namespace DeliveryFleet

namespace Pipeline

variable {τ : Type} (key : τ → String) (run : τ → WriteOutcome)

/-- The map left by filing tasks in turn, each under its key. -/
def filed (l : List τ) : Std.TreeMap String τ compare := l.foldl (fun m t => m.insert (key t) t) {}

/-- What a flush of a segment of received tasks runs: the newest task under each key, each with
how its write ended. -/
def batchOf (seg : List τ) : List (τ × WriteOutcome) :=
  (filed key seg).values.map fun t => (t, run t)

/-! ## The newest task under each key -/

@[simp] theorem filed_nil : filed key [] = {} := rfl

theorem filed_append (l l' : List τ) :
    filed key (l ++ l') = l'.foldl (fun m t => m.insert (key t) t) (filed key l) :=
  List.foldl_append

theorem filed_concat (l : List τ) (t : τ) :
    filed key (l ++ [t]) = (filed key l).insert (key t) t := by
  simp [filed_append]

theorem getElem?_foldl_insert (l : List τ) (m : Std.TreeMap String τ compare) (k : String) :
    (l.foldl (fun m t => m.insert (key t) t) m)[k]? = (l.reverse.find? (key · == k)).or m[k]? := by
  induction l generalizing m with
  | nil => simp
  | cons t l ih =>
    rw [List.foldl_cons, ih, Std.TreeMap.getElem?_insert, List.reverse_cons, List.find?_append,
      Option.or_assoc]
    by_cases hk : key t = k <;> simp [hk]

theorem getElem?_filed (l : List τ) (k : String) :
    (filed key l)[k]? = l.reverse.find? (key · == k) := by
  simp [filed, getElem?_foldl_insert]

/-- The map holds, of the tasks filed under each key, the newest. -/
theorem mem_values_filed {l : List τ} {t : τ} :
    t ∈ (filed key l).values ↔ l.reverse.find? (key · == key t) = some t := by
  rw [treeMap_values_eq, List.mem_map]
  constructor
  · rintro ⟨⟨k, t'⟩, hm, rfl⟩
    rw [Std.TreeMap.mem_toList_iff_getElem?_eq_some, getElem?_filed] at hm
    have hk : key t' = k := by simpa using List.find?_some hm
    rw [hk]
    exact hm
  · intro hf
    refine ⟨(key t, t), ?_, rfl⟩
    rw [Std.TreeMap.mem_toList_iff_getElem?_eq_some, getElem?_filed]
    exact hf

theorem mem_of_mem_values_filed {l : List τ} {t : τ} (ht : t ∈ (filed key l).values) : t ∈ l :=
  List.mem_reverse.1 (List.mem_of_find?_eq_some ((mem_values_filed key).1 ht))

/-- Two tasks the map holds under one key are the same. -/
theorem eq_of_mem_values_filed {l : List τ} {t u : τ} (ht : t ∈ (filed key l).values)
    (hu : u ∈ (filed key l).values) (hk : key t = key u) : t = u := by
  rw [mem_values_filed] at ht hu
  rw [hk] at ht
  exact Option.some.inj (ht.symm.trans hu)

theorem nodup_values_filed (l : List τ) : (filed key l).values.Nodup := by
  rw [treeMap_values_eq]
  -- each entry is filed under its task's key, so two entries with one task have one key
  refine List.Nodup.of_map key ?_
  have hkeys : (filed key l).toList.map (key ∘ Prod.snd) = (filed key l).toList.map Prod.fst := by
    apply List.map_congr_left
    rintro ⟨k, t⟩ hm
    rw [Std.TreeMap.mem_toList_iff_getElem?_eq_some, getElem?_filed] at hm
    simpa using List.find?_some hm
  rw [List.map_map, hkeys, Std.TreeMap.map_fst_toList_eq_keys]
  exact Std.TreeMap.nodup_keys

theorem isEmpty_filed {l : List τ} : (filed key l).isEmpty = true ↔ l = [] := by
  constructor
  · intro h
    induction l using List.reverseRecOn with
    | nil => rfl
    | append_singleton l t _ =>
      rw [filed_concat, Std.TreeMap.isEmpty_insert] at h
      cases h
  · rintro rfl
    exact Std.TreeMap.isEmpty_emptyc

/-! ## One event, one run -/

variable {key run}

/-- One event flushes nothing, or flushes a non-empty segment: the tasks received since the last
flush, with the one it has just received. What was received and what waits stay in order. -/
theorem step_segment {p : Pipeline τ} {cur : List τ} (hcur : p.pending = filed key cur)
    (e : LoopEvent) :
    ∃ seg : Option (List τ), ∃ cur', (p.step key run e).2.pending = filed key cur' ∧
      cur ++ p.input = seg.getD [] ++ cur' ++ (p.step key run e).2.input ∧
      (p.step key run e).1 = seg.map (batchOf key run) ∧ seg ≠ some [] := by
  cases e with
  | receive =>
    cases hin : p.input with
    | nil => exact ⟨none, cur, by simp [step, hin, hcur]⟩
    | cons t rest =>
      have hfiled : p.pending.insert (key t) t = filed key (cur ++ [t]) := by
        rw [hcur, filed_concat]
      by_cases hflush : p.threshold ≤ (filed key (cur ++ [t])).size
      · refine ⟨some (cur ++ [t]), [], ?_⟩
        simp [step, hin, hflush, flush, batchOf, hfiled]
      · refine ⟨none, cur ++ [t], ?_⟩
        simp [step, hin, hflush, hfiled]
  | tick =>
    by_cases hempty : (filed key cur).isEmpty = true
    · exact ⟨none, cur, by simp [step, hempty, hcur]⟩
    · -- something is pending, so something was received since the last flush
      have hne : cur ≠ [] := fun h => hempty ((isEmpty_filed key).2 h)
      refine ⟨some cur, [], ?_⟩
      simp [step, hempty, flush, batchOf, hcur, hne]

/-- A run cuts what it receives into non-empty segments, one per flush and in order, runs the
newest task of each key of each, and stops with nothing waiting or pending. -/
theorem start_segments {p : Pipeline τ} {cur : List τ} (hcur : p.pending = filed key cur)
    (events : List LoopEvent) :
    ∃ segs : List (List τ), (∀ s ∈ segs, s ≠ []) ∧ segs.flatten = cur ++ p.input ∧
      (p.start key run events).1 = segs.map (batchOf key run) ∧
      (p.start key run events).2.input = [] ∧
      (p.start key run events).2.pending.isEmpty = true := by
  induction events generalizing p cur with
  | nil =>
    -- the drain files what waits after what was received
    have hdrain :
        p.input.foldl (fun m t => m.insert (key t) t) p.pending = filed key (cur ++ p.input) := by
      rw [hcur, filed_append]
    by_cases hempty : (filed key (cur ++ p.input)).isEmpty = true
    · refine ⟨[], by simp, ((isEmpty_filed key).1 hempty).symm, ?_⟩
      simp [start, drain, hdrain, hempty]
    · refine ⟨[cur ++ p.input], ?_, by simp, ?_⟩
      · simpa [isEmpty_filed] using hempty
      · simp [start, drain, hdrain, hempty, flush, batchOf]
  | cons e es ih =>
    obtain ⟨seg, cur', hcur', horder, hbatch, hseg⟩ := @step_segment _ key run _ _ hcur e
    obtain ⟨segs, hne, hflat, hbatches, hinput, hpending⟩ := ih hcur'
    refine ⟨seg.toList ++ segs, ?_, ?_, ?_, hinput, hpending⟩
    · intro s hs
      rcases List.mem_append.1 hs with hs | hs
      · cases seg with
        | none => simp at hs
        | some s' =>
          simp only [Option.toList_some, List.mem_singleton] at hs
          subst hs
          exact fun h => hseg (by rw [h])
      · exact hne s hs
    · rw [List.flatten_append, hflat, horder]
      cases seg <;> simp
    · simp only [start, hbatches, hbatch, List.map_append]
      cases seg <;> rfl

/-! ## Pushes -/

/-- Pushes fill the input buffer in order up to its capacity and drop the rest. -/
theorem pushAll_eq (p : Pipeline τ) (ts : List τ) :
    (p.pushAll ts).1 = { p with input := p.input ++ ts.take (p.capacity - p.input.length) } := by
  induction ts generalizing p with
  | nil => simp [pushAll]
  | cons t ts ih =>
    simp only [pushAll, ih, push]
    split_ifs with h
    · have hsub : p.capacity - p.input.length = (p.capacity - (p.input.length + 1)) + 1 := by omega
      simp [hsub]
    · have hsub : p.capacity - p.input.length = 0 := by omega
      simp [hsub]

/-- The first push is taken exactly when the input buffer has room. -/
theorem getElem?_pushAll_zero (p : Pipeline τ) (t : τ) (ts : List τ) :
    (p.pushAll (t :: ts)).2[0]? = some (decide (p.input.length < p.capacity)) := by
  simp only [pushAll, push, List.getElem?_cons_zero]
  split_ifs with h <;> simp [h]

/-- A push is taken exactly while fewer tasks than the capacity wait, those taken before it
counted one by one. -/
theorem getElem?_pushAll_taken (p : Pipeline τ) (ts : List τ) :
    ∀ i < ts.length, (p.pushAll ts).2[i]? =
      some (decide (p.input.length + ((p.pushAll ts).2.take i).count true < p.capacity)) := by
  induction ts generalizing p with
  | nil => simp
  | cons t ts ih =>
    intro i hi
    cases i with
    | zero => simp [getElem?_pushAll_zero]
    | succ j =>
      have hj : j < ts.length := by simpa using hi
      simp only [pushAll, List.getElem?_cons_succ, List.take_succ_cons, List.count_cons]
      rw [ih (p.push t).1 j hj]
      unfold push
      by_cases h : p.input.length < p.capacity
      · simp only [if_pos h, List.length_append, List.length_singleton, beq_self_eq_true,
          if_true, Option.some.injEq, decide_eq_decide]
        omega
      · simp only [if_neg h, Bool.false_beq, Option.some.injEq, decide_eq_decide]
        omega

/-- The `i`-th push is taken exactly when `i` more tasks than wait already fit. -/
theorem getElem?_pushAll_snd (p : Pipeline τ) (ts : List τ) (i : Nat) :
    (p.pushAll ts).2[i]? =
      if i < ts.length then some (decide (p.input.length + i < p.capacity)) else none := by
  induction ts generalizing p i with
  | nil => simp [pushAll]
  | cons t ts ih =>
    cases i with
    | zero => simp [getElem?_pushAll_zero]
    | succ j =>
      simp only [pushAll, List.getElem?_cons_succ, List.length_cons, ih]
      unfold push
      split_ifs <;> simp_all <;> omega

/-! ## Segments in push order -/

/-- The flush of a segment runs the newest tasks of the segment, each with its own outcome. -/
theorem mem_batchOf {seg : List τ} {x : τ × WriteOutcome} :
    x ∈ batchOf key run seg ↔ x.1 ∈ (filed key seg).values ∧ x.2 = run x.1 := by
  unfold batchOf
  constructor
  · intro hx
    obtain ⟨t, ht, rfl⟩ := List.mem_map.1 hx
    exact ⟨ht, rfl⟩
  · rintro ⟨hx, hrun⟩
    exact List.mem_map.2 ⟨x.1, hx, by rw [← hrun]⟩

/-- The batches of segments run the tasks of the segments, each with its own outcome. -/
theorem mem_batches {segs : List (List τ)} {x : τ × WriteOutcome} :
    x ∈ (segs.map (batchOf key run)).flatten ↔
      ∃ s ∈ segs, x.1 ∈ (filed key s).values ∧ x.2 = run x.1 := by
  simp only [List.mem_flatten, List.mem_map]
  constructor
  · rintro ⟨_, ⟨s, hs, rfl⟩, hx⟩
    exact ⟨s, hs, mem_batchOf.1 hx⟩
  · rintro ⟨s, hs, hx⟩
    exact ⟨_, ⟨s, hs, rfl⟩, mem_batchOf.2 hx⟩

/-- Segments of a list with no task twice run each task at most once. -/
theorem nodup_batches {segs : List (List τ)} (hnd : segs.flatten.Nodup) :
    ((segs.map (batchOf key run)).flatten.map Prod.fst).Nodup := by
  have hvalues : (segs.map (batchOf key run)).flatten.map Prod.fst =
      (segs.map fun s => (filed key s).values).flatten := by
    simp [List.map_flatten, batchOf, Function.comp_def]
  rw [hvalues, List.nodup_flatten]
  obtain ⟨-, hdisj⟩ := List.nodup_flatten.1 hnd
  refine ⟨?_, ?_⟩
  · simp only [List.mem_map]
    rintro _ ⟨s, -, rfl⟩
    exact nodup_values_filed key s
  · -- the segments share no task, and a flush runs only tasks of its segment
    rw [List.pairwise_map]
    exact hdisj.imp fun hd _ ha hb =>
      hd (mem_of_mem_values_filed key ha) (mem_of_mem_values_filed key hb)

section Tagged

variable {key : τ × Nat → String} {run : τ × Nat → WriteOutcome}

/-- In a list in push order, the last task a test accepts is the newest the test accepts. -/
theorem le_of_find?_reverse {s : List (τ × Nat)} (hs : s.Pairwise (·.2 < ·.2))
    {test : τ × Nat → Bool} {t : τ × Nat} (h : s.reverse.find? test = some t) :
    ∀ u ∈ s, test u = true → u.2 ≤ t.2 := by
  obtain ⟨-, before, after, hsplit, hnone⟩ := List.find?_eq_some_iff_append.1 h
  have hs' : s = after.reverse ++ t :: before.reverse := by
    simpa using congrArg List.reverse hsplit
  intro u hu htest
  rw [hs'] at hu hs
  rcases List.mem_append.1 hu with hu | hu
  · exact Nat.le_of_lt ((List.pairwise_append.1 hs).2.2 u hu t List.mem_cons_self)
  · rcases List.mem_cons.1 hu with rfl | hu
    · exact le_refl _
    · simpa [htest] using hnone u (List.mem_reverse.1 hu)

/-- Two tasks of a list in push order with one position are the same. -/
theorem eq_of_snd_eq {l : List (τ × Nat)} (hl : l.Pairwise (·.2 < ·.2)) {x y : τ × Nat}
    (hx : x ∈ l) (hy : y ∈ l) (h : x.2 = y.2) : x = y :=
  List.inj_on_of_nodup_map ((List.pairwise_map.2 hl).imp Nat.ne_of_lt) hx hy h

/-- Segments of a list in push order run the newest task of each key. -/
theorem mem_batches_of_newest {segs : List (List (τ × Nat))}
    (hsorted : segs.flatten.Pairwise (·.2 < ·.2)) {t : τ × Nat} (ht : t ∈ segs.flatten)
    (hnewest : ∀ u ∈ segs.flatten, key u = key t → u.2 ≤ t.2) :
    (t, run t) ∈ (segs.map (batchOf key run)).flatten := by
  obtain ⟨s, hs, hts⟩ := List.mem_flatten.1 ht
  have hsub := List.sublist_flatten_of_mem hs
  -- the segment's flush runs the last task of the key in the segment, which is `t` itself
  obtain ⟨t', hfind⟩ : ∃ t', s.reverse.find? (key · == key t) = some t' :=
    Option.isSome_iff_exists.1 (List.find?_isSome.2 ⟨t, List.mem_reverse.2 hts, by simp⟩)
  have ht's : t' ∈ s := List.mem_reverse.1 (List.mem_of_find?_eq_some hfind)
  have hkey : key t' = key t := by simpa using List.find?_some hfind
  have hle : t.2 ≤ t'.2 := le_of_find?_reverse (hsorted.sublist hsub) hfind t hts (by simp)
  have hge : t'.2 ≤ t.2 := hnewest t' (hsub.subset ht's) hkey
  have heq : t' = t := eq_of_snd_eq hsorted (hsub.subset ht's) ht (by omega)
  rw [heq] at hfind
  exact mem_batches.2 ⟨s, hs, (mem_values_filed key).2 hfind, rfl⟩

/-- Of two tasks of one key run from segments of a list in push order, the older runs in an
earlier batch. -/
theorem lt_of_mem_batches {segs : List (List (τ × Nat))}
    (hsorted : segs.flatten.Pairwise (·.2 < ·.2)) {a b : Nat}
    {xa xb : List ((τ × Nat) × WriteOutcome)} (ha : (segs.map (batchOf key run))[a]? = some xa)
    (hb : (segs.map (batchOf key run))[b]? = some xb) {x y : (τ × Nat) × WriteOutcome}
    (hx : x ∈ xa) (hy : y ∈ xb) (hkey : key x.1 = key y.1) (hlt : x.1.2 < y.1.2) : a < b := by
  rw [List.getElem?_map, Option.map_eq_some_iff] at ha hb
  obtain ⟨sa, hsa, rfl⟩ := ha
  obtain ⟨sb, hsb, rfl⟩ := hb
  have hxa : x.1 ∈ (filed key sa).values := (mem_batchOf.1 hx).1
  have hyb : y.1 ∈ (filed key sb).values := (mem_batchOf.1 hy).1
  have hsegs := (List.pairwise_flatten.1 hsorted).2
  rcases Nat.lt_trichotomy a b with hab | rfl | hba
  · exact hab
  · -- one segment runs one task per key
    obtain rfl := Option.some.inj (hsa.symm.trans hsb)
    have := eq_of_mem_values_filed key hxa hyb hkey
    rw [this] at hlt
    exact absurd hlt (Nat.lt_irrefl _)
  · -- a later segment holds only younger tasks
    have hb' : b < segs.length := (List.getElem?_eq_some_iff.1 hsb).1
    have ha' : a < segs.length := (List.getElem?_eq_some_iff.1 hsa).1
    have horder := List.pairwise_iff_getElem.1 hsegs b a hb' ha' hba
    rw [(List.getElem?_eq_some_iff.1 hsb).2, (List.getElem?_eq_some_iff.1 hsa).2] at horder
    have := horder y.1 (mem_of_mem_values_filed key hyb) x.1 (mem_of_mem_values_filed key hxa)
    omega

end Tagged

/-! ## A round -/

/-- Tasks tagged with their positions are in push order. -/
theorem pairwise_zipIdx (l : List τ) : l.zipIdx.Pairwise (·.2 < ·.2) := by
  have h := @List.pairwise_lt_range' 0 l.length 1 (by decide)
  rw [← List.zipIdx_map_snd] at h
  exact List.pairwise_map.1 h

theorem mem_take_zipIdx {l : List τ} {n : Nat} {t : τ × Nat} :
    t ∈ l.zipIdx.take n ↔ t ∈ l.zipIdx ∧ t.2 < n := by
  simp only [List.mem_iff_getElem?, List.getElem?_take, List.getElem?_zipIdx]
  constructor
  · rintro ⟨i, hi⟩
    split at hi
    · obtain ⟨x, hx, rfl⟩ := Option.map_eq_some_iff.1 hi
      exact ⟨⟨i, by simp [hx]⟩, by simpa⟩
    · cases hi
  · rintro ⟨⟨i, hi⟩, hn⟩
    obtain ⟨x, hx, rfl⟩ := Option.map_eq_some_iff.1 hi
    exact ⟨i, by simp_all⟩

/-- A task of a round waits in the input buffer after the pushes exactly when its push was
taken. -/
theorem mem_take_zipIdx_iff_taken (capacity threshold : Nat) (ts : List τ) (t : τ × Nat) :
    t ∈ ts.zipIdx.take capacity ↔ t ∈ ts.zipIdx ∧
      (({ capacity, threshold } : Pipeline (τ × Nat)).pushAll ts.zipIdx).2[t.2]? = some true := by
  rw [mem_take_zipIdx]
  refine and_congr_right fun ht => ?_
  have hlen : t.2 < ts.length := by
    simpa using (List.getElem?_eq_some_iff.1 (List.mem_zipIdx_iff_getElem?.1 ht)).1
  simp [getElem?_pushAll_snd, hlen]

/-- A round of the write-through pipeline: tasks pushed in order onto an empty pipeline, each
tagged with its position, then the loop with its context cancelled, taking any `events` before it
drains. A push is taken exactly while fewer than `capacity` tasks have been taken, whatever their
keys; every task the loop runs was taken, and runs once, with its own outcome, so that a write
that fails or panics keeps no other from running; of the tasks taken under each key the newest
runs, in a later batch than every older task of its key that runs; and the loop ends with the
input buffer and the map empty. -/
theorem round_runs_newest (key : τ → String) (run : τ → WriteOutcome) (capacity threshold : Nat)
    (ts : List τ) (events : List LoopEvent) :
    let pushed := ({ capacity, threshold } : Pipeline (τ × Nat)).pushAll ts.zipIdx
    let taken := pushed.2
    let stopped := pushed.1.start (key ∘ Prod.fst) (run ∘ Prod.fst) events
    let batches := stopped.1
    (∀ i < ts.length, taken[i]? = some (decide ((taken.take i).count true < capacity))) ∧
    (∀ x ∈ batches.flatten, x.1 ∈ ts.zipIdx ∧ taken[x.1.2]? = some true ∧ x.2 = run x.1.1) ∧
    (batches.flatten.map Prod.fst).Nodup ∧
    (∀ t ∈ ts.zipIdx, taken[t.2]? = some true →
      (∀ u ∈ ts.zipIdx, taken[u.2]? = some true → key u.1 = key t.1 → u.2 ≤ t.2) →
      (t, run t.1) ∈ batches.flatten) ∧
    (∀ (a b : Nat) (xa xb : List ((τ × Nat) × WriteOutcome)), batches[a]? = some xa →
      batches[b]? = some xb → ∀ x ∈ xa, ∀ y ∈ xb, key x.1.1 = key y.1.1 → x.1.2 < y.1.2 → a < b) ∧
    stopped.2.input = [] ∧ stopped.2.pending.isEmpty = true := by
  intro pushed taken stopped batches
  -- the pushes leave the first `capacity` tasks in the input buffer, in push order
  have hpushed : pushed.1 = { capacity, threshold, input := ts.zipIdx.take capacity } := by
    simp [pushed, pushAll_eq]
  have hmem : ∀ t, t ∈ ts.zipIdx.take capacity ↔ t ∈ ts.zipIdx ∧ taken[t.2]? = some true :=
    mem_take_zipIdx_iff_taken capacity threshold ts
  have hsorted : (ts.zipIdx.take capacity).Pairwise (·.2 < ·.2) :=
    (pairwise_zipIdx ts).sublist (List.take_sublist _ _)
  -- the run cuts the taken tasks into segments
  obtain ⟨segs, -, hflat, hbatches, hinput, hpending⟩ :=
    @start_segments _ (key ∘ Prod.fst) (run ∘ Prod.fst) pushed.1 [] (by rw [hpushed]; rfl) events
  simp only [hpushed, List.nil_append] at hflat
  have hbatches' : batches = segs.map (batchOf (key ∘ Prod.fst) (run ∘ Prod.fst)) := hbatches
  rw [← hflat] at hmem hsorted
  refine ⟨?_, ?_, ?_, ?_, ?_, hinput, hpending⟩
  · intro i hi
    simpa using getElem?_pushAll_taken ({ capacity, threshold } : Pipeline (τ × Nat)) ts.zipIdx i
      (by simpa using hi)
  · intro x hx
    rw [hbatches', mem_batches] at hx
    obtain ⟨s, hs, hxs, hrun⟩ := hx
    have hx' := (hmem x.1).1 (List.mem_flatten.2 ⟨s, hs, mem_of_mem_values_filed _ hxs⟩)
    exact ⟨hx'.1, hx'.2, hrun⟩
  · rw [hbatches']
    exact nodup_batches
      (List.Nodup.of_map Prod.snd ((List.pairwise_map.2 hsorted).imp Nat.ne_of_lt))
  · intro t ht htk hnewest
    rw [hbatches']
    exact mem_batches_of_newest hsorted ((hmem t).2 ⟨ht, htk⟩)
      fun u hu hk => hnewest u ((hmem u).1 hu).1 ((hmem u).1 hu).2 hk
  · intro a b xa xb ha hb x hx y hy hk hlt
    rw [hbatches'] at ha hb
    exact lt_of_mem_batches hsorted ha hb hx hy hk hlt

end Pipeline

/-- A flush of the hub runs what the merge loop runs when it drains at once: the batch of the
write queue. -/
theorem WriteQueue.batch_eq_start_nil (q : WriteQueue) (threshold : Nat)
    (run : WriteTask → WriteOutcome) :
    ((({ capacity := q.capacity, threshold, input := q.pending } : Pipeline WriteTask).start
      WriteTask.key run []).1.flatten.map Prod.fst) = q.batch := by
  have hbatch : q.batch = (Pipeline.filed WriteTask.key q.pending).values := rfl
  have hdrain : q.pending.foldl (fun m t => m.insert t.key t) {} =
      Pipeline.filed WriteTask.key q.pending := rfl
  simp only [Pipeline.start, Pipeline.drain, Pipeline.flush, hdrain]
  split_ifs with hempty
  · have hnil : (Pipeline.filed WriteTask.key q.pending).toList = [] := by
      rw [← List.isEmpty_iff, Std.TreeMap.isEmpty_toList]
      exact hempty
    simp [hbatch, treeMap_values_eq, hnil]
  · simp [hbatch, Function.comp_def]

end DeliveryFleet
