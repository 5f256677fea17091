import DeliveryFleet.Proofs.Decimal.Numbers
import DeliveryFleet.Proofs.Session.DurableRows
import DeliveryFleet.Proofs.Session.Redelivery

/-!
# Sound readings

Validation admits a battery charge and a trip's progress only in `[0, 100]`, a status only when it
is not empty, a container's state only when it names the container and its status, a trip only
when it has an id, and a warning only when it has a code or a text (`Message.Valid`,
`Message.valid_decode`). A JSON number never reads as NaN (`Decimal.isNaN_of_toFloat?`), so the
range check on a decoded number is the order on numbers (`Draft.percent_iff`).

The cache keeps these facts (`Readings.Sound`): recording a valid message keeps them, a trip state
keeps the trip it names or starts one of its id at progress `0`, and a forced move raises a warning
with a code. A robot's durable row is written only by a flush, which lays the cached readings over
the row found or a blank one, so its battery charge and trip progress stay in `[0, 100]` as well
(`RobotRow.InRange`). Every step of a session keeps both (`Console.sound_nextHub`), so they hold
of every hub a session reaches from a fresh one (`Console.readings_valid_after_session`).
-/

namespace DeliveryFleet

theorem Option.forall_mem_or {α : Type} {p : α → Prop} {a b : Option α} (ha : ∀ x ∈ a, p x)
    (hb : ∀ x ∈ b, p x) : ∀ x ∈ a.or b, p x := by
  cases a with
  | some x => exact ha
  | none => exact hb

theorem Option.getD_of_forall_mem {α : Type} {p : α → Prop} {a : Option α} {d : α}
    (ha : ∀ x ∈ a, p x) (hd : p d) : p (a.getD d) := by
  cases a with
  | some x => exact ha x rfl
  | none => exact hd

theorem Float.zero_percent : (0 : Float) ≤ 0 ∧ (0 : Float) ≤ 100 := by
  decide

/-! ## Decoded numbers are numbers -/

namespace Record

variable {σ : Type} (P : σ → Prop)

/-- A field keeps `P` when every value it stores turns a record with `P` into one with `P`. -/
def Keeps (f : Field σ) : Prop :=
  ∀ path j r r', f.store path j r = .ok r' → P r → P r'

variable {P}

theorem fieldOf?_mem {fields : List (Field σ)} {key : String} {f : Field σ}
    (h : fieldOf? fields key = some f) : f ∈ fields := by
  unfold fieldOf? at h
  split at h
  · cases h
    exact List.mem_of_find?_eq_some ‹_›
  · exact List.mem_of_find?_eq_some h

theorem storeMembers_keeps {fields : List (Field σ)} (hf : ∀ f ∈ fields, Keeps P f)
    (path : List PathStep) (members : List (String × Json)) {r r' : σ}
    (h : storeMembers fields path members r = .ok r') (hr : P r) : P r' := by
  induction members generalizing r with
  | nil =>
    cases h
    exact hr
  | cons member rest ih =>
    unfold storeMembers at h
    split at h
    · exact ih h hr
    · rename_i f hfield
      split at h
      · exact ih h (hf f (fieldOf?_mem hfield) _ _ _ _ ‹_› hr)
      · cases h

/-- Reading a document into a record keeps what each field keeps. -/
theorem read_keeps {fields : List (Field σ)} (hf : ∀ f ∈ fields, Keeps P f) {qualified : String}
    {init r : σ} {j : Json} (h : read fields qualified init j = .ok r) (hinit : P init) : P r := by
  unfold read at h
  split at h
  · cases h
    exact hinit
  · split at h
    · cases h
      exact storeMembers_keeps hf [] _ ‹_› hinit
    · cases h
  · cases h

end Record

/-- A slot field stores what its slot makes of the value and the field's content. -/
theorem Field.ofSlot_store {σ α : Type} {name typeName : String} {get : σ → α} {set : σ → α → σ}
    {slot : Slot α} {path : List PathStep} {j : Json} {r r' : σ}
    (h : (Field.ofSlot name typeName get set slot).store path j r = .ok r') :
    ∃ a, slot j (get r) = .ok a ∧ r' = set r a := by
  simp only [Field.ofSlot] at h
  split at h
  · cases h
    exact ⟨_, ‹_›, rfl⟩
  · split at h <;> cases h

theorem Slot.optFloat_isNaN {j : Json} {old a : Option Float} (h : Slot.optFloat j old = .ok a) :
    ∀ x ∈ a, x.isNaN = false := by
  unfold Slot.optFloat at h
  split at h
  · split at h
    · cases h
      rintro x ⟨⟩
      exact Decimal.isNaN_of_toFloat? ‹_›
    · cases h
  · cases h
    rintro x ⟨⟩
  · cases h

theorem Slot.float_isNaN {j : Json} {old a : Float} (h : Slot.float j old = .ok a)
    (hold : old.isNaN = false) : a.isNaN = false := by
  unfold Slot.float at h
  split at h
  · split at h
    · cases h
      exact Decimal.isNaN_of_toFloat? ‹_›
    · cases h
  · cases h
    exact hold
  · cases h

namespace Draft

/-- Every number a draft holds is a number, not NaN. -/
structure Numeric (d : Draft) : Prop where
  lat : ∀ x ∈ d.lat, x.isNaN = false
  lon : ∀ x ∈ d.lon, x.isNaN = false
  battery : ∀ x ∈ d.battery, x.isNaN = false
  progress : d.progress.isNaN = false

theorem numeric_empty : ({} : Draft).Numeric where
  lat _ h := nomatch h
  lon _ h := nomatch h
  battery _ h := nomatch h
  progress := Float.isNaN_zero

theorem keeps_ofSlot {α : Type} {name typeName : String} {get : Draft → α}
    {set : Draft → α → Draft} {slot : Slot α}
    (hset : ∀ d j a, d.Numeric → slot j (get d) = .ok a → (set d a).Numeric) :
    Record.Keeps Numeric (Field.ofSlot name typeName get set slot) := by
  intro path j r r' h hr
  obtain ⟨a, ha, rfl⟩ := Field.ofSlot_store h
  exact hset r j a hr ha

/-- A field that sets no number keeps the numbers. -/
theorem keeps_ofSlot_of_numbers {α : Type} {name typeName : String} {get : Draft → α}
    {set : Draft → α → Draft} {slot : Slot α}
    (hset : ∀ d a, (set d a).lat = d.lat ∧ (set d a).lon = d.lon ∧ (set d a).battery = d.battery ∧
      (set d a).progress = d.progress) :
    Record.Keeps Numeric (Field.ofSlot name typeName get set slot) :=
  keeps_ofSlot fun d _ a hd _ => by
    obtain ⟨hlat, hlon, hbattery, hprogress⟩ := hset d a
    exact ⟨hlat ▸ hd.lat, hlon ▸ hd.lon, hbattery ▸ hd.battery, hprogress ▸ hd.progress⟩

/-- Every field of every kind stores numbers read from JSON, which are numbers. -/
theorem fieldsOf_keeps (k : Kind) : ∀ f ∈ fieldsOf k, Record.Keeps Numeric f := by
  cases k <;> simp only [fieldsOf, List.forall_mem_cons, List.not_mem_nil, IsEmpty.forall_iff,
    implies_true, and_true]
  case location =>
    refine ⟨keeps_ofSlot fun _ _ _ hd hs => ?_, keeps_ofSlot fun _ _ _ hd hs => ?_,
      keeps_ofSlot_of_numbers (by simp)⟩
    · exact { hd with lat := Slot.optFloat_isNaN hs }
    · exact { hd with lon := Slot.optFloat_isNaN hs }
  case battery =>
    refine keeps_ofSlot fun _ _ _ hd hs => ?_
    exact { hd with battery := Slot.optFloat_isNaN hs }
  case trip =>
    refine ⟨keeps_ofSlot_of_numbers (by simp), keeps_ofSlot fun _ _ _ hd hs => ?_,
      keeps_ofSlot_of_numbers (by simp), keeps_ofSlot_of_numbers (by simp),
      keeps_ofSlot_of_numbers (by simp)⟩
    exact { hd with progress := Slot.float_isNaN hs hd.progress }
  -- the other kinds' fields hold texts and flags, which set no number
  all_goals and_intros <;> exact keeps_ofSlot_of_numbers (by simp)

/-- A payload reads as a draft whose numbers are all numbers. -/
theorem read?_numeric {k : Kind} {payload : List UInt8} {d : Draft} (h : read? k payload = some d) :
    d.Numeric := by
  unfold read? at h
  split at h
  · cases h
    exact numeric_empty
  · split at h
    · cases h
    · split at h
      · cases h
        exact Record.read_keeps (fieldsOf_keeps k) ‹_› numeric_empty
      · cases h

/-- On a number, the range check is the order: NaN alone passes it without lying in range. -/
theorem percent_iff {x : Float} (hx : x.isNaN = false) : percent x = true ↔ 0 ≤ x ∧ x ≤ 100 := by
  have h0 : (0 : Float).isNaN = false := Float.isNaN_zero
  have h100 : (100 : Float).isNaN = false := Float.isNaN_ofScientific 100 false 0
  simp only [percent, Bool.not_eq_true', Bool.or_eq_false_iff, decide_eq_false_iff_not]
  constructor
  · rintro ⟨hlo, hhi⟩
    exact ⟨Float.le_of_not_lt h0 hx hlo, Float.le_of_not_lt hx h100 hhi⟩
  · rintro ⟨hlo, hhi⟩
    exact ⟨Float.not_lt_of_le hlo, Float.not_lt_of_le hhi⟩

end Draft

/-! ## Validation -/

/-- A trip with an id and a progress in `[0, 100]`. -/
def TripState.Valid (t : TripState) : Prop := t.tripId ≠ "" ∧ 0 ≤ t.progress ∧ t.progress ≤ 100

/-- What validation admits of each kind of message. -/
def Message.Valid : Message → Prop
  | .battery b => 0 ≤ b ∧ b ≤ 100
  | .status s => s ≠ ""
  | .container v _ _ => v.containerCode ≠ "" ∧ v.status ≠ ""
  | .trip v => v.Valid
  | .tripState id s => id ≠ "" ∧ s ≠ ""
  | .warning v => v.code ≠ "" ∨ v.message ≠ ""
  | .location _ | .qrCode _ | .forceMove _ | .heartbeat _ => True

/-- A draft whose numbers are numbers validates only as a valid message. -/
theorem Draft.toMessage?_valid {d : Draft} (hd : d.Numeric) {k : Kind} {m : Message}
    (h : d.toMessage? k = some m) : m.Valid := by
  -- a passed check gives the message of the draft's members
  cases k <;> simp only [toMessage?, Option.ite_none_left_eq_some, Option.some.injEq] at h
  case location =>
    split at h
    · cases h
      trivial
    · cases h
  case battery =>
    split at h
    · rename_i b hb
      obtain ⟨hcheck, ⟨⟩⟩ := Option.ite_none_right_eq_some.1 h
      exact (percent_iff (hd.battery b hb)).1 hcheck
    · cases h
  case trip =>
    obtain ⟨hcheck, rfl⟩ := h
    simp only [Bool.or_eq_true, Bool.not_eq_true', not_or, Bool.not_eq_false] at hcheck
    exact ⟨by simpa using hcheck.1, (percent_iff hd.progress).1 hcheck.2⟩
  case warning =>
    obtain ⟨hcheck, rfl⟩ := h
    simpa [Message.Valid, Decidable.or_iff_not_imp_left] using hcheck
  case status | container | tripState =>
    obtain ⟨hcheck, rfl⟩ := h
    simpa [Message.Valid] using hcheck
  case qrCode | forceMove | heartbeat =>
    subst h
    trivial

/-- Every message a payload decodes as is valid. -/
theorem Message.valid_decode {k : Kind} {payload : List UInt8} {m : Message}
    (h : Message.decode k payload = some m) : m.Valid := by
  obtain ⟨d, hd, hm⟩ := Option.bind_eq_some_iff.1 h
  exact Draft.toMessage?_valid (Draft.read?_numeric hd) hm

/-! ## Sound readings -/

/-- Readings as validation admits them: a battery charge in `[0, 100]`, a status that is not
empty, a valid trip, a warning with a code or a text, and, for each code, the state of the
container of that code, naming it and its status. -/
structure Readings.Sound (r : Readings) : Prop where
  battery : ∀ b ∈ r.battery, 0 ≤ b ∧ b ≤ 100
  status : ∀ s ∈ r.status, s ≠ ""
  trip : ∀ t ∈ r.trip, t.Valid
  warning : ∀ w ∈ r.warning, w.code ≠ "" ∨ w.message ≠ ""
  container : ∀ code, ∀ v ∈ r.container code,
    v.containerCode = code ∧ v.containerCode ≠ "" ∧ v.status ≠ ""

namespace Message.Valid

variable {m : Message} (hm : m.Valid)
include hm

theorem battery? : ∀ b ∈ m.battery?, 0 ≤ b ∧ b ≤ 100 := by
  intro b hb
  cases m <;> cases hb
  exact hm

theorem status? : ∀ s ∈ m.status?, s ≠ "" := by
  intro s hs
  cases m <;> cases hs
  exact hm

/-- A forced move raises a warning under a code that is not empty. -/
theorem warning? : ∀ w ∈ m.warning?, w.code ≠ "" ∨ w.message ≠ "" := by
  intro w hw
  cases m <;> cases hw
  case warning => exact hm
  case forceMove =>
    have hcode : Warning.forceMoveCode ≠ "" := by decide
    exact .inl hcode

theorem container? (code : String) :
    ∀ v ∈ m.container? code, v.containerCode = code ∧ v.containerCode ≠ "" ∧ v.status ≠ "" := by
  intro w hw
  cases m with
  | container v o t =>
    by_cases hc : v.containerCode = code
    · rw [Message.container?, if_pos hc] at hw
      cases hw
      exact ⟨hc, hm⟩
    · rw [Message.container?, if_neg hc] at hw
      cases hw
  | _ => cases hw

/-- A trip state keeps the trip it names, or starts one of its id at progress `0`. -/
theorem tripAfter {before : Option TripState} (hb : ∀ t ∈ before, t.Valid) :
    ∀ t ∈ Message.tripAfter before m, t.Valid := by
  cases m with
  | trip v =>
    rintro t ⟨⟩
    exact hm
  | tripState id s =>
    rw [Message.tripAfter_tripState]
    rintro t ⟨⟩
    have hstart : (⟨id, 0, s, "", ""⟩ : TripState).Valid := ⟨hm.1, Float.zero_percent⟩
    cases before with
    | none => exact hstart
    | some old =>
      simp only [Cache.tripAfterStatus]
      split
      · exact hb old rfl
      · exact hstart
  | _ => exact hb

end Message.Valid

/-- Recording a valid message keeps readings sound. -/
theorem Readings.Sound.record {r : Readings} (hr : r.Sound) {m : Message} (hm : m.Valid) :
    (r.record m).Sound where
  battery := Option.forall_mem_or hm.battery? hr.battery
  status := Option.forall_mem_or hm.status? hr.status
  trip := hm.tripAfter hr.trip
  warning := Option.forall_mem_or hm.warning? hr.warning
  container code := Option.forall_mem_or (hm.container? code) (hr.container code)

/-! ## Robot rows -/

/-- A robot row whose battery charge and trip progress lie in `[0, 100]`. -/
structure RobotRow.InRange (row : RobotRow) : Prop where
  battery : 0 ≤ row.battery ∧ row.battery ≤ 100
  tripProgress : 0 ≤ row.tripProgress ∧ row.tripProgress ≤ 100

theorem RobotRow.inRange_blank (code : String) : ({ code } : RobotRow).InRange :=
  ⟨Float.zero_percent, Float.zero_percent⟩

/-- Refreshing a row in range from sound readings keeps it in range. -/
theorem RobotRow.InRange.refreshed {row : RobotRow} (hrow : row.InRange) {r : Readings}
    (hr : r.Sound) (online : Bool) (lastSeen : Option Instant) (now : Instant) :
    (row.refreshed r online lastSeen now).InRange where
  battery := Option.getD_of_forall_mem hr.battery hrow.battery
  tripProgress := Option.getD_of_forall_mem (p := fun x => 0 ≤ x ∧ x ≤ 100)
    (Option.forall_mem_map.2 fun t ht => (hr.trip t ht).2) hrow.tripProgress

namespace Hub

/-- A hub whose cache holds only readings validation admits, and whose robot rows lie in range. -/
structure Sound (h : Hub) : Prop where
  readings : ∀ robot, (h.cache.readings robot).Sound
  rows : ∀ (code : String) (row : RobotRow), h.store.robots[code]? = some row → row.InRange

theorem sound_fresh (settings : Settings) (now : Instant) (timeout : Int) (capacity : Nat)
    (codes : List String) : (Hub.fresh settings now timeout capacity codes).Sound where
  readings robot := by
    constructor <;> simp [fresh, Cache.readings, Cache.container?, Cache.containersOf]
  rows code row h := by simp [fresh] at h

variable {h : Hub}

/-- Soundness reads only the cache and the robot rows. -/
theorem Sound.of_eq {h' : Hub} (hs : h.Sound) (hcache : h'.cache = h.cache)
    (hrobots : h'.store.robots = h.store.robots) : h'.Sound :=
  ⟨hcache ▸ hs.readings, hrobots ▸ hs.rows⟩

/-- A write lays sound readings over a row in range, or over a blank one, so it keeps the rows in
range. -/
theorem Sound.write (hs : h.Sound) (t : WriteTask) : (h.write t).2.Sound := by
  have hcache : (h.write t).2.cache = h.cache := congrArg Prod.snd (write_robots h t)
  refine ⟨fun robot => hcache ▸ hs.readings robot, ?_⟩
  cases t with
  | robot id =>
    rw [write_robot]
    split
    · exact hs.rows
    · intro code row hrow
      rw [Store.withRobotRow_robots] at hrow
      split at hrow
      · cases hrow
        rw [overlay_eq]
        exact (Option.getD_of_forall_mem (hs.rows id) (RobotRow.inRange_blank id)).refreshed
          (hs.readings _) _ _ _
      · exact hs.rows code row hrow
  | container r c =>
    rw [write_container]
    split
    · exact hs.rows
    · split
      · exact hs.rows
      · exact hs.rows

theorem Sound.flush (hs : h.Sound) : h.flush.Sound := by
  rw [flush_eq]
  have hrun : ∀ (l : List WriteTask) (h' : Hub), h'.Sound → (l.foldl flushStep h').Sound := by
    intro l
    induction l with
    | nil => exact fun _ hs' => hs'
    | cons t l ih =>
      intro h' hs'
      exact ih _ ((hs'.write t).of_eq rfl rfl)
  exact hrun _ _ (hs.of_eq rfl rfl)

variable (h)

/-- Routing writes no robot row. -/
theorem route_storeRobots (topic payload : List UInt8) :
    (h.route topic payload).2.store.robots = h.store.robots := by
  obtain ⟨n, hn⟩ := route_frame h topic payload
  rw [hn]
  split
  · rename_i r m _
    obtain ⟨n', hn'⟩ := handle_frame h r m
    rw [hn']
    exact Store.closeFor_robots _ _
  · rfl

theorem container?_store (r c : String) : (h.container? r c).2.store = h.store := by
  unfold Hub.container? scheduleContainer
  split
  · split
    · split <;> simp
    · rfl
  · rfl

end Hub

namespace Console

open Hub

/-- A message a session accepts is one a payload decodes as, so it is valid. -/
theorem acceptedMessage?_valid {h : Hub} {robot : String} {step : Json} {m : Message}
    (hm : acceptedMessage? h robot step = some m) : m.Valid := by
  unfold acceptedMessage? Hub.acceptedFrom? at hm
  split at hm
  · split at hm
    · split at hm
      · exact Message.valid_decode hm
      · cases hm
    · cases hm
  · cases hm

/-- A step writes robot rows only by a flush. -/
theorem runStep_rows {h : Hub} (hs : h.Sound) (step : Json) :
    ∀ (code : String) (row : RobotRow), (runStep h step).2.store.robots[code]? = some row →
      row.InRange := by
  by_cases hroute : Request.text step "op" = "route"
  · simp only [runStep, hroute]
    cases payloadOf step with
    | error _ => exact hs.rows
    | ok bytes =>
      rw [route_storeRobots]
      exact hs.rows
  by_cases hcont : Request.text step "op" = "get_container"
  · simp only [runStep, hcont]
    rw [container?_store]
    exact hs.rows
  by_cases hflush : Request.text step "op" = "flush"
  · simp only [runStep, hflush]
    exact hs.flush.rows
  have hrobots : (runStep h step).2.store.robots = h.store.robots :=
    congrArg Prod.fst (runStep_writeInputs h step hroute hcont hflush)
  rw [hrobots]
  exact hs.rows

/-- Every step of a session keeps a hub sound. -/
theorem sound_nextHub {h : Hub} (hs : h.Sound) (step : Json) : (nextHub h step).Sound where
  readings robot := by
    rw [nextHub_readings]
    cases hm : acceptedMessage? h robot step with
    | none => exact hs.readings robot
    | some m => exact (hs.readings robot).record (acceptedMessage?_valid hm)
  rows := by
    cases step with
    | object members => exact runStep_rows hs _
    | _ => exact hs.rows

theorem sound_afterSteps {h : Hub} (hs : h.Sound) (steps : List Json) :
    (afterSteps h steps).Sound := by
  induction steps generalizing h with
  | nil => exact hs
  | cons step steps ih => exact ih (sound_nextHub hs step)

/-- In every session from a fresh hub, the cache holds only what validation admits: battery
charges in `[0, 100]`, trips with an id and a progress in `[0, 100]`, statuses that are not empty,
container states that name the container and its status and are cached under the robot and that
container's own code, and warnings with a code or a text. So every robot row written through has
its battery charge and trip progress in `[0, 100]`. -/
theorem readings_valid_after_session (settings : Settings) (now : Instant) (timeout : Int)
    (capacity : Nat) (codes : List String) (steps : List Json) :
    let h := afterSteps (Hub.fresh settings now timeout capacity codes) steps
    (∀ (robot : String) (b : Float), h.cache.battery[robot]? = some b → 0 ≤ b ∧ b ≤ 100) ∧
    (∀ (robot : String) (t : TripState), h.cache.trip[robot]? = some t →
      t.tripId ≠ "" ∧ 0 ≤ t.progress ∧ t.progress ≤ 100) ∧
    (∀ (robot : String) (s : String), h.cache.status[robot]? = some s → s ≠ "") ∧
    (∀ (robot code : String) (v : ContainerState), h.cache.container? robot code = some v →
      v.containerCode = code ∧ v.containerCode ≠ "" ∧ v.status ≠ "") ∧
    (∀ (robot : String) (w : Warning), h.cache.warning[robot]? = some w →
      w.code ≠ "" ∨ w.message ≠ "") ∧
    (∀ (code : String) (row : RobotRow), h.store.robots[code]? = some row →
      (0 ≤ row.battery ∧ row.battery ≤ 100) ∧ 0 ≤ row.tripProgress ∧ row.tripProgress ≤ 100) := by
  intro h
  have hs : h.Sound := sound_afterSteps (sound_fresh settings now timeout capacity codes) steps
  refine ⟨fun robot => (hs.readings robot).battery, fun robot => (hs.readings robot).trip,
    fun robot => (hs.readings robot).status, fun robot => (hs.readings robot).container,
    fun robot => (hs.readings robot).warning, fun code row hrow => ?_⟩
  have hrange := hs.rows code row hrow
  exact ⟨hrange.battery, hrange.tripProgress⟩

end Console

end DeliveryFleet
