import DeliveryFleet.Telemetry.WriteQueue

/-!
# Coalescing writes

A flush runs the batch of the write queue (`WriteQueue.batch`): of the tasks waiting under each
key, the newest (`WriteQueue.mem_batch`). So the batch holds no key twice (`nodup_batch_keys`)
and only waiting tasks.

A robot's row has a key of its own, so a robot whose write is waiting is in the batch
(`WriteQueue.robot_mem_batch`). A container's key joins the robot's id and the container's code
with a `/`, so it names the pair only while robot ids hold no `/`, as ids read from topics never
do. Then a container whose write is waiting is in the batch too (`container_mem_batch`).
-/

namespace DeliveryFleet

/-- A list split at the first occurrence of an element is split the same way twice. -/
theorem List.eq_of_append_cons_eq {α : Type} {a : α} :
    ∀ {x₁ x₂ z₁ z₂ : List α}, a ∉ x₁ → a ∉ x₂ → x₁ ++ a :: z₁ = x₂ ++ a :: z₂ →
      x₁ = x₂ ∧ z₁ = z₂
  | [], [], _, _, _, _, h => ⟨rfl, by simpa using h⟩
  | [], b :: _, _, _, _, h₂, h => by
    simp only [List.nil_append, List.cons_append, List.cons.injEq] at h
    exact absurd (h.1 ▸ List.mem_cons_self) h₂
  | b :: _, [], _, _, h₁, _, h => by
    simp only [List.nil_append, List.cons_append, List.cons.injEq] at h
    exact absurd (h.1 ▸ List.mem_cons_self) h₁
  | b :: x₁, c :: x₂, _, _, h₁, h₂, h => by
    simp only [List.cons_append, List.cons.injEq] at h
    obtain ⟨rfl, h⟩ := h
    obtain ⟨rfl, rfl⟩ :=
      List.eq_of_append_cons_eq (fun hm => h₁ (List.mem_cons_of_mem _ hm))
        (fun hm => h₂ (List.mem_cons_of_mem _ hm)) h
    exact ⟨rfl, rfl⟩

namespace WriteTask

/-- Only the write of a robot's row has that row's key. -/
theorem key_eq_robot_iff {u : WriteTask} {robot : String} :
    u.key = (WriteTask.robot robot).key ↔ u = .robot robot := by
  constructor
  · intro hk
    cases u with
    | robot r => simpa [key] using hk
    | container r c =>
      -- the keys of the two kinds start differently
      have := congrArg (fun s => s.toList.head?) hk
      simp [key] at this
  · rintro rfl
    rfl

/-- For robots whose ids hold no `/`, only the write of a container's row has that row's key. -/
theorem key_eq_container_iff {u : WriteTask} {robot code : String}
    (hr : '/' ∉ robot.toList) (hu : ∀ r c, u = .container r c → '/' ∉ r.toList) :
    u.key = (WriteTask.container robot code).key ↔ u = .container robot code := by
  constructor
  · intro hk
    cases u with
    | robot r =>
      have := congrArg (fun s => s.toList.head?) hk
      simp [key] at this
    | container r c =>
      have hu' : '/' ∉ r.toList := hu r c rfl
      have hl : r.toList ++ '/' :: c.toList = robot.toList ++ '/' :: code.toList := by
        simpa [key] using congrArg String.toList hk
      obtain ⟨hr', hc'⟩ := List.eq_of_append_cons_eq hu' hr hl
      rw [String.toList_inj.1 hr', String.toList_inj.1 hc']
  · rintro rfl
    rfl

end WriteTask

/-- A tree map's values are its entries' values, in order. -/
theorem treeMap_values_eq {α β : Type} {cmp : α → α → Ordering} (t : Std.TreeMap α β cmp) :
    t.values = t.toList.map Prod.snd := by
  simp only [Std.TreeMap.values, Std.TreeMap.toList, Std.DTreeMap.values,
    Std.DTreeMap.Const.toList, Std.DTreeMap.Internal.Impl.values_eq_map_snd,
    Std.DTreeMap.Internal.Impl.Const.toList_eq_toListModel_map, List.map_map]
  rfl

namespace WriteQueue

/-- Inserting tasks by key leaves under each key the newest task with that key. -/
theorem foldl_insert_getElem? (l : List WriteTask) (m : Std.TreeMap String WriteTask compare)
    (k : String) :
    (l.foldl (fun m t => m.insert t.key t) m)[k]? = (l.reverse.find? (·.key == k)).or m[k]? := by
  induction l generalizing m with
  | nil => simp
  | cons t l ih =>
    rw [List.foldl_cons, ih, Std.TreeMap.getElem?_insert, List.reverse_cons, List.find?_append,
      Option.or_assoc]
    by_cases hk : t.key = k <;> simp [hk]

/-- The map of newest tasks under each key. -/
theorem batch_eq (q : WriteQueue) :
    q.batch = (q.pending.foldl (fun (m : Std.TreeMap String WriteTask compare) t =>
      m.insert t.key t) {}).toList.map Prod.snd :=
  treeMap_values_eq _

/-- An entry of the map of newest tasks is filed under the task's own key. -/
theorem key_of_mem_toList {q : WriteQueue} {k : String} {t : WriteTask}
    (hm : (k, t) ∈ (q.pending.foldl (fun (m : Std.TreeMap String WriteTask compare) t =>
      m.insert t.key t) {}).toList) :
    q.pending.reverse.find? (·.key == k) = some t ∧ t.key = k := by
  rw [Std.TreeMap.mem_toList_iff_getElem?_eq_some, foldl_insert_getElem?] at hm
  simp only [Std.TreeMap.getElem?_emptyc, Option.or_none] at hm
  exact ⟨hm, by simpa using List.find?_some hm⟩

/-- The batch holds, of the tasks waiting under each key, the newest. -/
theorem mem_batch (q : WriteQueue) (t : WriteTask) :
    t ∈ q.batch ↔ q.pending.reverse.find? (·.key == t.key) = some t := by
  rw [batch_eq, List.mem_map]
  constructor
  · rintro ⟨⟨k, t'⟩, hm, rfl⟩
    obtain ⟨hf, hk⟩ := key_of_mem_toList hm
    rw [hk]
    exact hf
  · intro hf
    refine ⟨(t.key, t), ?_, rfl⟩
    rw [Std.TreeMap.mem_toList_iff_getElem?_eq_some, foldl_insert_getElem?]
    simpa using hf

theorem mem_pending_of_mem_batch {q : WriteQueue} {t : WriteTask} (ht : t ∈ q.batch) :
    t ∈ q.pending :=
  List.mem_reverse.1 (List.mem_of_find?_eq_some ((mem_batch q t).1 ht))

/-- No key is written twice in one flush. -/
theorem nodup_batch_keys (q : WriteQueue) : (q.batch.map WriteTask.key).Nodup := by
  rw [batch_eq, List.map_map]
  -- each entry is filed under its task's key, so the keys written are the map's keys
  have hkeys : (q.pending.foldl (fun (m : Std.TreeMap String WriteTask compare) t =>
      m.insert t.key t) {}).toList.map (WriteTask.key ∘ Prod.snd) =
      (q.pending.foldl (fun (m : Std.TreeMap String WriteTask compare) t =>
        m.insert t.key t) {}).toList.map Prod.fst := by
    apply List.map_congr_left
    rintro ⟨k, t⟩ hm
    exact (key_of_mem_toList hm).2
  rw [hkeys, Std.TreeMap.map_fst_toList_eq_keys]
  exact Std.TreeMap.nodup_keys

/-- A task whose key no other waiting task has is in the batch as soon as it waits. -/
theorem mem_batch_of_unique {q : WriteQueue} {t : WriteTask} (ht : t ∈ q.pending)
    (huniq : ∀ u ∈ q.pending, u.key = t.key → u = t) : t ∈ q.batch := by
  rw [mem_batch]
  obtain ⟨u, hu⟩ : ∃ u, q.pending.reverse.find? (·.key == t.key) = some u :=
    Option.isSome_iff_exists.1 (List.find?_isSome.2 ⟨t, List.mem_reverse.2 ht, by simp⟩)
  have hku : u.key = t.key := by simpa using List.find?_some hu
  rw [hu, huniq u (List.mem_reverse.1 (List.mem_of_find?_eq_some hu)) hku]

/-- A robot whose row's write waits is in the batch. -/
theorem robot_mem_batch (q : WriteQueue) (robot : String) :
    WriteTask.robot robot ∈ q.batch ↔ WriteTask.robot robot ∈ q.pending :=
  ⟨mem_pending_of_mem_batch, fun ht =>
    mem_batch_of_unique ht fun _ _ hk => WriteTask.key_eq_robot_iff.1 hk⟩

/-- While the containers whose writes wait are of robots whose ids hold no `/`, a container whose
row's write waits is in the batch. -/
theorem container_mem_batch (q : WriteQueue) (robot code : String)
    (hplain : ∀ r c, WriteTask.container r c ∈ q.pending → '/' ∉ r.toList)
    (hr : '/' ∉ robot.toList) :
    WriteTask.container robot code ∈ q.batch ↔ WriteTask.container robot code ∈ q.pending :=
  ⟨mem_pending_of_mem_batch, fun ht =>
    mem_batch_of_unique ht fun _ hu hk =>
      (WriteTask.key_eq_container_iff hr fun r c hrc => hplain r c (hrc ▸ hu)).1 hk⟩

end WriteQueue

end DeliveryFleet
