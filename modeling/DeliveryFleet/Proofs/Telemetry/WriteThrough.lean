import DeliveryFleet.Proofs.Telemetry.Latest
import DeliveryFleet.Proofs.Telemetry.Coalescing

/-!
# Writing rows through

A flush writes the newest waiting task of each key (`WriteQueue.batch`), each against the hub the
writes before it left. A robot's write lays over the row the store holds, or over a blank row of
the robot, every reading cached at that moment, whether the robot is alive, when it was last seen
and the clock (`RobotRow.refreshed`, `Hub.overlay_eq`). A container's write gives the row the
cached status of the container and the clock.

While the store files each row under its own codes (`Store.Keyed`), a write changes the row of its
own task and no other; writes keep the cache, the tracker and the clock, so a task writes the same
row whether it runs first or last (`Hub.foldl_flushStep_of_mem`). So on an open store a flush gives
each robot and container whose write waits the row refreshed from the hub as the flush found it,
and leaves every other row as it was (`Hub.flush_robotRow_of_pending`,
`Hub.flush_containerRow_of_pending` and their frames).
-/

namespace DeliveryFleet

/-- A robot's row refreshed from what the hub holds: each cached reading overwrites its fields,
`online` is whether the robot is alive, `lastSeenAt` its last sighting when there is one, and
`updatedAt` the clock. -/
def RobotRow.refreshed (row : RobotRow) (r : Readings) (online : Bool) (lastSeen : Option Instant)
    (now : Instant) : RobotRow :=
  { row with
    lat := (r.location.map (·.lat)).getD row.lat
    lon := (r.location.map (·.lon)).getD row.lon
    roomCode := (r.location.map (·.roomCode)).getD row.roomCode
    battery := r.battery.getD row.battery
    status := r.status.getD row.status
    online := online
    lastSeenAt := (lastSeen.map Instant.toStored).getD row.lastSeenAt
    updatedAt := now.toStored
    tripId := (r.trip.map (·.tripId)).getD row.tripId
    tripProgress := (r.trip.map (·.progress)).getD row.tripProgress
    tripStatus := (r.trip.map (·.status)).getD row.tripStatus
    qrCode := (r.qrCode.map (·.code)).getD row.qrCode
    warning := (r.warning.map (·.code)).getD row.warning }

/-- A container's row refreshed from its cached state. -/
def ContainerRow.refreshed (row : ContainerRow) (v : ContainerState) (now : Instant) :
    ContainerRow :=
  { row with status := v.status, updatedAt := now.toStored }

/-- The hub's overlay refreshes a row from the readings cached under the row's code. -/
theorem Hub.overlay_eq (h : Hub) (row : RobotRow) :
    h.overlay row = row.refreshed (h.cache.readings row.code) (h.isOnline row.code)
      (h.tracker.lastSeen? row.code) h.now := by
  -- the overlay is a chain of lets, each laying one reading over the row before; unfolding them
  -- would copy each row once per field, so each is taken apart on its own
  delta Hub.overlay
  extract_lets c id r₁ r₂ r₃ r₄ r₅ r₆ r₇ r₈
  have e₁ : r₁ = { row with
      lat := ((c.location.get? id).map (·.lat)).getD row.lat
      lon := ((c.location.get? id).map (·.lon)).getD row.lon
      roomCode := ((c.location.get? id).map (·.roomCode)).getD row.roomCode } := by
    simp only [r₁]
    cases c.location.get? id <;> rfl
  have e₂ : r₂ = { r₁ with battery := (c.battery.get? id).getD r₁.battery } := by
    simp only [r₂]
    cases c.battery.get? id <;> rfl
  have e₃ : r₃ = { r₂ with status := (c.status.get? id).getD r₂.status } := by
    simp only [r₃]
    cases c.status.get? id <;> rfl
  have e₄ : r₄ = { r₃ with
      tripId := ((c.trip.get? id).map (·.tripId)).getD r₃.tripId
      tripProgress := ((c.trip.get? id).map (·.progress)).getD r₃.tripProgress
      tripStatus := ((c.trip.get? id).map (·.status)).getD r₃.tripStatus } := by
    simp only [r₄]
    cases c.trip.get? id <;> rfl
  have e₅ : r₅ = { r₄ with qrCode := ((c.qrCode.get? id).map (·.code)).getD r₄.qrCode } := by
    simp only [r₅]
    cases c.qrCode.get? id <;> rfl
  have e₆ : r₆ = { r₅ with warning := ((c.warning.get? id).map (·.code)).getD r₅.warning } := by
    simp only [r₆]
    cases c.warning.get? id <;> rfl
  have e₈ : r₈ = { r₇ with
      lastSeenAt := ((h.tracker.lastSeen? id).map Instant.toStored).getD r₇.lastSeenAt } := by
    simp only [r₈]
    cases h.tracker.lastSeen? id <;> rfl
  rw [e₈]
  simp only [r₇]
  rw [e₆, e₅, e₄, e₃, e₂, e₁]
  rfl

@[simp] theorem RobotRow.refreshed_code (row : RobotRow) (r : Readings) (online : Bool)
    (lastSeen : Option Instant) (now : Instant) :
    (row.refreshed r online lastSeen now).code = row.code := rfl

@[simp] theorem ContainerRow.refreshed_robotCode (row : ContainerRow) (v : ContainerState)
    (now : Instant) : (row.refreshed v now).robotCode = row.robotCode := rfl

@[simp] theorem ContainerRow.refreshed_containerCode (row : ContainerRow) (v : ContainerState)
    (now : Instant) : (row.refreshed v now).containerCode = row.containerCode := rfl

namespace Store

variable (s : Store)

/-- The row of a container of a robot. -/
def containerRow (robot code : String) : Option ContainerRow :=
  ((s.containers[robot]?).getD {})[code]?

/-- The store with a robot's row saved under its code. -/
def withRobotRow (row : RobotRow) : Store := { s with robots := s.robots.insert row.code row }

/-- The store with a container's row saved under its codes. -/
def withContainerRow (row : ContainerRow) : Store :=
  { s with
    containers := s.containers.insert row.robotCode
      (((s.containers[row.robotCode]?).getD {}).insert row.containerCode row) }

/-- The store files each row under its own codes. -/
structure Keyed : Prop where
  robot : ∀ (k : String) (row : RobotRow), s.robots[k]? = some row → row.code = k
  container : ∀ (r c : String) (row : ContainerRow), s.containerRow r c = some row →
    row.robotCode = r ∧ row.containerCode = c

variable {s}

theorem findRobot_of_open (hs : s.closed = false) (k : String) :
    s.findRobot k = .ok s.robots[k]? := by
  simp [findRobot, guard, hs, Std.TreeMap.get?_eq_getElem?]

theorem saveRobot_of_open (hs : s.closed = false) (row : RobotRow) :
    s.saveRobot row = .ok (s.withRobotRow row) := by
  simp [saveRobot, withRobotRow, guard, hs]

theorem findContainer_of_open (hs : s.closed = false) (r c : String) :
    s.findContainer r c = .ok (s.containerRow r c) := by
  simp [findContainer, containerRow, guard, hs, Std.TreeMap.get?_eq_getElem?]

theorem saveContainer_of_open (hs : s.closed = false) (row : ContainerRow) :
    s.saveContainer row = .ok (s.withContainerRow row) := by
  simp [saveContainer, withContainerRow, guard, hs, Std.TreeMap.get?_eq_getElem?]

variable (s)

@[simp] theorem withRobotRow_closed (row : RobotRow) : (s.withRobotRow row).closed = s.closed := rfl

@[simp] theorem withContainerRow_closed (row : ContainerRow) :
    (s.withContainerRow row).closed = s.closed := rfl

@[simp] theorem withRobotRow_containerRow (row : RobotRow) (r c : String) :
    (s.withRobotRow row).containerRow r c = s.containerRow r c := rfl

@[simp] theorem withContainerRow_robots (row : ContainerRow) :
    (s.withContainerRow row).robots = s.robots := rfl

theorem withRobotRow_robots (row : RobotRow) (k : String) :
    (s.withRobotRow row).robots[k]? = if row.code = k then some row else s.robots[k]? := by
  by_cases hk : row.code = k <;> simp [withRobotRow, Std.TreeMap.getElem?_insert, hk]

theorem withContainerRow_containerRow (row : ContainerRow) (r c : String) :
    (s.withContainerRow row).containerRow r c =
      if row.robotCode = r ∧ row.containerCode = c then some row else s.containerRow r c := by
  by_cases hr : row.robotCode = r
  · subst hr
    by_cases hc : row.containerCode = c <;>
      simp [withContainerRow, containerRow, Std.TreeMap.getElem?_insert, hc]
  · simp [withContainerRow, containerRow, Std.TreeMap.getElem?_insert, hr]

variable {s}

/-- A robot's row, as the store finds it or blank, has the robot's code. -/
theorem Keyed.code_getD (hk : s.Keyed) (k : String) :
    (s.robots[k]?.getD { code := k }).code = k := by
  cases hr : s.robots[k]? with
  | none => rfl
  | some row => exact hk.robot k row hr

/-- A container's row, as the store finds it or blank, has the container's codes. -/
theorem Keyed.codes_getD (hk : s.Keyed) (r c : String) :
    ((s.containerRow r c).getD { robotCode := r, containerCode := c }).robotCode = r ∧
      ((s.containerRow r c).getD { robotCode := r, containerCode := c }).containerCode = c := by
  cases hr : s.containerRow r c with
  | none => exact ⟨rfl, rfl⟩
  | some row => exact hk.container r c row hr

theorem Keyed.withRobotRow (hk : s.Keyed) (row : RobotRow) : (s.withRobotRow row).Keyed where
  robot k row' h := by
    rw [withRobotRow_robots] at h
    split at h
    · rename_i hc
      cases h
      exact hc
    · exact hk.robot k row' h
  container := hk.container

theorem Keyed.withContainerRow (hk : s.Keyed) (row : ContainerRow) :
    (s.withContainerRow row).Keyed where
  robot := hk.robot
  container r c row' h := by
    rw [withContainerRow_containerRow] at h
    split at h
    · rename_i hrc
      cases h
      exact hrc
    · exact hk.container r c row' h

end Store

namespace Hub

variable (h : Hub)

/-! ## One write -/

/-- A robot's write lays the cached readings over the row the store holds, or over a blank row of
the robot, and saves it under its code; a closed store refuses it. -/
theorem write_robot (id : String) :
    h.write (.robot id) =
      if h.store.closed then (false, h)
      else (true, { h with
        store := h.store.withRobotRow (h.overlay (h.store.robots[id]?.getD { code := id })) }) := by
  cases hs : h.store.closed
  · simp only [write, Store.findRobot_of_open hs, Store.saveRobot_of_open hs]
    rfl
  · simp [write, Store.findRobot, Store.guard, hs]

/-- A container's write gives the row the store holds, or a blank row of the container, the
cached status and the clock, and saves it under its codes; it does nothing while nothing is cached
for the container, and a closed store refuses it. -/
theorem write_container (r c : String) :
    h.write (.container r c) =
      match h.cache.container? r c with
      | none => (true, h)
      | some v =>
        if h.store.closed then (false, h)
        else (true, { h with
          store := h.store.withContainerRow
            (((h.store.containerRow r c).getD { robotCode := r, containerCode := c }).refreshed
              v h.now) }) := by
  cases hv : h.cache.container? r c with
  | none => simp [write, hv]
  | some v =>
    cases hs : h.store.closed
    · simp only [write, hv, Store.findContainer_of_open hs, Store.saveContainer_of_open hs]
      rfl
    · simp [write, hv, Store.findContainer, Store.guard, hs]

variable {h}

/-- A write changes only the store, and keeps it closed or open. -/
theorem write_changes_store (t : WriteTask) :
    ∃ s : Store, (h.write t).2 = { h with store := s } ∧ s.closed = h.store.closed := by
  cases t with
  | robot id =>
    rw [write_robot]
    split
    · exact ⟨h.store, rfl, rfl⟩
    · exact ⟨_, rfl, rfl⟩
  | container r c =>
    rw [write_container]
    split
    · exact ⟨h.store, rfl, rfl⟩
    · split
      · exact ⟨h.store, rfl, rfl⟩
      · exact ⟨_, rfl, rfl⟩

theorem write_frame (t : WriteTask) : (h.write t).2.frame = h.frame := by
  obtain ⟨s, he, hs⟩ := write_changes_store t
  rw [he]
  simp [frame, hs]

@[simp] theorem write_queue (t : WriteTask) : (h.write t).2.queue = h.queue := by
  obtain ⟨s, he, -⟩ := write_changes_store t
  rw [he]

@[simp] theorem write_now (t : WriteTask) : (h.write t).2.now = h.now :=
  congrArg Prod.fst (write_frame t)

@[simp] theorem write_closed (t : WriteTask) : (h.write t).2.store.closed = h.store.closed :=
  congrArg (·.2.2) (write_frame t)

theorem write_keyed (hk : h.store.Keyed) (t : WriteTask) : (h.write t).2.store.Keyed := by
  cases t with
  | robot id =>
    rw [write_robot]
    split
    · exact hk
    · exact hk.withRobotRow _
  | container r c =>
    rw [write_container]
    split
    · exact hk
    · split
      · exact hk
      · exact hk.withContainerRow _

/-- On an open store, a robot's write gives its row the overlay of the row before. -/
theorem write_robotRow_self (hk : h.store.Keyed) (hs : h.store.closed = false) (id : String) :
    (h.write (.robot id)).2.store.robots[id]? =
      some (h.overlay (h.store.robots[id]?.getD { code := id })) := by
  rw [write_robot, if_neg (by simp [hs])]
  simp [Store.withRobotRow_robots, overlay_eq, hk.code_getD]

/-- A write of another task keeps a robot's row. -/
theorem write_robotRow_of_ne (hk : h.store.Keyed) {t : WriteTask} {k : String}
    (ht : t ≠ .robot k) : (h.write t).2.store.robots[k]? = h.store.robots[k]? := by
  cases t with
  | robot id =>
    have hid : id ≠ k := fun he => ht (he ▸ rfl)
    rw [write_robot]
    split
    · rfl
    · simp [Store.withRobotRow_robots, overlay_eq, hk.code_getD, hid]
  | container r c =>
    rw [write_container]
    split
    · rfl
    · split <;> rfl

/-- On an open store, a container's write gives its row the cached status and the clock. -/
theorem write_containerRow_self (hk : h.store.Keyed) (hs : h.store.closed = false)
    {r c : String} {v : ContainerState} (hv : h.cache.container? r c = some v) :
    (h.write (.container r c)).2.store.containerRow r c =
      some (((h.store.containerRow r c).getD { robotCode := r, containerCode := c }).refreshed
        v h.now) := by
  rw [write_container, hv]
  simp only [hs, Bool.false_eq_true, if_false, Store.withContainerRow_containerRow,
    ContainerRow.refreshed_robotCode, ContainerRow.refreshed_containerCode, (hk.codes_getD r c).1,
    (hk.codes_getD r c).2, and_self, if_true]

/-- A write of another task keeps a container's row. -/
theorem write_containerRow_of_ne (hk : h.store.Keyed) {t : WriteTask} {r c : String}
    (ht : t ≠ .container r c) :
    (h.write t).2.store.containerRow r c = h.store.containerRow r c := by
  cases t with
  | robot id =>
    rw [write_robot]
    split <;> rfl
  | container r' c' =>
    have hrc : ¬ (r' = r ∧ c' = c) := fun ⟨hr, hc⟩ => ht (hr ▸ hc ▸ rfl)
    rw [write_container]
    split
    · rfl
    · split
      · rfl
      · rw [Store.withContainerRow_containerRow, if_neg]
        rwa [ContainerRow.refreshed_robotCode, ContainerRow.refreshed_containerCode,
          (hk.codes_getD r' c').1, (hk.codes_getD r' c').2]

/-- The overlay reads the hub's tracker, cache and clock only. -/
theorem overlay_congr {h' : Hub} (hr : h'.robots = h.robots) (hn : h'.now = h.now) :
    h'.overlay = h.overlay := by
  obtain ⟨ht, hc⟩ := Prod.mk.inj hr
  funext row
  simp only [overlay_eq, isOnline]
  rw [ht, hc, hn]

/-! ## A flush -/

variable (h)

/-- One write of a flush, counted a success or a failure. -/
def flushStep (t : WriteTask) : Hub :=
  (h.write t).2.countWrite (if (h.write t).1 then "success" else "failed")

/-- A flush empties the queue, then runs the writes of the batch in order. -/
theorem flush_eq : h.flush = h.queue.batch.foldl flushStep { h with queue := h.queue.drained } :=
  rfl

@[simp] theorem flushStep_store (t : WriteTask) : (h.flushStep t).store = (h.write t).2.store :=
  rfl

@[simp] theorem flushStep_robots (t : WriteTask) : (h.flushStep t).robots = h.robots := by
  simp [flushStep]

@[simp] theorem flushStep_now (t : WriteTask) : (h.flushStep t).now = h.now := by
  simp [flushStep, countWrite]

@[simp] theorem flushStep_queue (t : WriteTask) : (h.flushStep t).queue = h.queue := by
  simp [flushStep, countWrite]

theorem foldl_flushStep_queue :
    ∀ (l : List WriteTask) (h : Hub), (l.foldl flushStep h).queue = h.queue
  | [], _ => rfl
  | t :: l, h => (foldl_flushStep_queue l (h.flushStep t)).trans (flushStep_queue h t)

/-- A flush empties the queue. -/
theorem flush_queue : h.flush.queue = h.queue.drained := by
  rw [flush_eq, foldl_flushStep_queue]

variable {h}

/-- A hub a flush reaches from `h₀` between two writes: the store files rows under their codes
and is as open as it was, and the tracker, the cache and the clock are those of `h₀`. -/
structure Midflush (h₀ h : Hub) : Prop where
  keyed : h.store.Keyed
  closed : h.store.closed = h₀.store.closed
  robots : h.robots = h₀.robots
  now : h.now = h₀.now

theorem Midflush.flushStep {h₀ : Hub} (hm : Midflush h₀ h) (t : WriteTask) :
    Midflush h₀ (h.flushStep t) where
  keyed := write_keyed hm.keyed t
  closed := (write_closed t).trans hm.closed
  robots := (flushStep_robots h t).trans hm.robots
  now := (flushStep_now h t).trans hm.now

theorem Midflush.foldl {h₀ : Hub} :
    ∀ (l : List WriteTask) {h : Hub}, Midflush h₀ h → Midflush h₀ (l.foldl Hub.flushStep h)
  | [], _, hm => hm
  | t :: l, _, hm => Midflush.foldl l (hm.flushStep t)

section Fold

variable {β : Type} (Inv : Hub → Prop) (V : Hub → β) {t₀ : WriteTask}
  (hinv : ∀ h t, Inv h → Inv (h.flushStep t))
  (hkeep : ∀ h t, Inv h → t ≠ t₀ → V (h.flushStep t) = V h)

include hinv hkeep

/-- Writes that are not `t₀` keep a view that every write but `t₀` keeps. -/
theorem foldl_flushStep_of_not_mem :
    ∀ (l : List WriteTask) (h : Hub), t₀ ∉ l → Inv h → V (l.foldl flushStep h) = V h
  | [], _, _, _ => rfl
  | t :: l, h, hn, hi => by
    rw [List.foldl_cons, foldl_flushStep_of_not_mem l _ (fun hm => hn (List.mem_cons_of_mem _ hm))
      (hinv h t hi)]
    exact hkeep h t hi fun ht => hn (ht ▸ List.mem_cons_self)

/-- A run of writes that holds `t₀` once leaves a view as `t₀` sets it, when the writes before
`t₀` change nothing that `t₀` reads and the writes after it keep the view. -/
theorem foldl_flushStep_of_mem (G : Hub → β) (hset : ∀ h, Inv h → V (h.flushStep t₀) = G h)
    (hG : ∀ h t, Inv h → t ≠ t₀ → G (h.flushStep t) = G h) :
    ∀ (l : List WriteTask) (h : Hub), l.Nodup → t₀ ∈ l → Inv h → V (l.foldl flushStep h) = G h
  | [], _, _, hm, _ => absurd hm List.not_mem_nil
  | t :: l, h, hnd, hm, hi => by
    obtain ⟨hn, hnd⟩ := List.nodup_cons.1 hnd
    rw [List.foldl_cons]
    by_cases ht : t = t₀
    · subst ht
      rw [foldl_flushStep_of_not_mem Inv V hinv hkeep l _ hn (hinv h t hi)]
      exact hset h hi
    · have hm' : t₀ ∈ l := (List.mem_cons.1 hm).resolve_left (Ne.symm ht)
      rw [foldl_flushStep_of_mem G hset hG l _ hnd hm' (hinv h t hi)]
      exact hG h t hi ht

end Fold

variable (h)

theorem nodup_batch : h.queue.batch.Nodup :=
  (WriteQueue.nodup_batch_keys h.queue).of_map _

/-- A flush files each row it writes under the row's codes. -/
theorem flush_keyed (hk : h.store.Keyed) : h.flush.store.Keyed := by
  rw [flush_eq]
  have hm : Midflush h { h with queue := h.queue.drained } := ⟨hk, rfl, rfl, rfl⟩
  exact (Midflush.foldl _ hm).keyed

/-- A flush on an open store gives a robot whose write waits its row refreshed from the hub as the
flush found it. -/
theorem flush_robotRow_of_pending (hk : h.store.Keyed) (hs : h.store.closed = false) {k : String}
    (hp : .robot k ∈ h.queue.pending) :
    h.flush.store.robots[k]? =
      some ((h.store.robots[k]?.getD { code := k }).refreshed (h.cache.readings k) (h.isOnline k)
        (h.tracker.lastSeen? k) h.now) := by
  rw [flush_eq, foldl_flushStep_of_mem (Midflush h) (fun h' => h'.store.robots[k]?)
    (fun _ t hm => hm.flushStep t) (fun _ _ hm ht => write_robotRow_of_ne hm.keyed ht)
    (fun h' => some (h.overlay (h'.store.robots[k]?.getD { code := k })))
    (fun h' hm => by
      rw [flushStep_store, write_robotRow_self hm.keyed (hm.closed.trans hs),
        overlay_congr hm.robots hm.now])
    (fun h' t hm ht => by rw [flushStep_store, write_robotRow_of_ne hm.keyed ht])
    _ { h with queue := h.queue.drained } (nodup_batch h) ((WriteQueue.robot_mem_batch _ _).2 hp)
    ⟨hk, rfl, rfl, rfl⟩]
  rw [overlay_eq, hk.code_getD]

/-- A flush keeps the row of a robot whose write does not wait. -/
theorem flush_robotRow_of_not_pending (hk : h.store.Keyed) {k : String}
    (hp : .robot k ∉ h.queue.pending) : h.flush.store.robots[k]? = h.store.robots[k]? :=
  foldl_flushStep_of_not_mem (Midflush h) (fun h' => h'.store.robots[k]?)
    (fun _ t hm => hm.flushStep t) (fun _ _ hm ht => write_robotRow_of_ne hm.keyed ht)
    _ _ (fun hb => hp (WriteQueue.mem_pending_of_mem_batch hb)) ⟨hk, rfl, rfl, rfl⟩

/-- A flush on an open store gives a container whose write waits, and whose state is cached, the
row with the cached status and the clock, while the containers whose writes wait are of robots
whose ids hold no `/`. -/
theorem flush_containerRow_of_pending (hk : h.store.Keyed) (hs : h.store.closed = false)
    (hplain : ∀ r c, .container r c ∈ h.queue.pending → '/' ∉ r.toList) {r c : String}
    (hp : .container r c ∈ h.queue.pending) {v : ContainerState}
    (hv : h.cache.container? r c = some v) :
    h.flush.store.containerRow r c =
      some (((h.store.containerRow r c).getD { robotCode := r, containerCode := c }).refreshed
        v h.now) := by
  rw [flush_eq]
  exact foldl_flushStep_of_mem (Midflush h) (fun h' => h'.store.containerRow r c)
    (fun _ t hm => hm.flushStep t) (fun _ _ hm ht => write_containerRow_of_ne hm.keyed ht)
    (fun h' => some (((h'.store.containerRow r c).getD
      { robotCode := r, containerCode := c }).refreshed v h.now))
    (fun h' hm => by
      have hv' : h'.cache.container? r c = some v := by
        rw [show h'.cache = h.cache from (Prod.mk.inj hm.robots).2, hv]
      rw [flushStep_store, write_containerRow_self hm.keyed (hm.closed.trans hs) hv', hm.now])
    (fun h' t hm ht => by rw [flushStep_store, write_containerRow_of_ne hm.keyed ht])
    _ _ (nodup_batch h) ((WriteQueue.container_mem_batch _ _ _ hplain (hplain r c hp)).2 hp)
    ⟨hk, rfl, rfl, rfl⟩

/-- A flush keeps the row of a container whose write does not wait. -/
theorem flush_containerRow_of_not_pending (hk : h.store.Keyed) {r c : String}
    (hp : .container r c ∉ h.queue.pending) :
    h.flush.store.containerRow r c = h.store.containerRow r c :=
  foldl_flushStep_of_not_mem (Midflush h) (fun h' => h'.store.containerRow r c)
    (fun _ t hm => hm.flushStep t) (fun _ _ hm ht => write_containerRow_of_ne hm.keyed ht)
    _ _ (fun hb => hp (WriteQueue.mem_pending_of_mem_batch hb)) ⟨hk, rfl, rfl, rfl⟩

end Hub

end DeliveryFleet
