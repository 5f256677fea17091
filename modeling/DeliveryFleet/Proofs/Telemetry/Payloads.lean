import Mathlib
import DeliveryFleet.Proofs.Topic.Counting

/-!
# Blank payloads and decoded payloads

Routing reads a payload in one of two ways (`Draft.read?`). A payload that is blank in the
Unicode sense (`Space.isBlank`) is not decoded at all: the kind's checks and its handler get the
empty draft, every member unset. Any other payload is unmarshalled as a JSON document into the
kind's members (`Draft.unmarshal`), and the draft that comes out, if any, goes to the same checks
and the same handler. A payload is malformed exactly when no valid message comes out of the way
it is read (`Hub.dispatch_malformed_iff`).

The blank test is wider than JSON's own blanks: every payload of space, tab, line feed and
carriage return is blank (`Space.isBlank_of_json_blanks`), but so are the vertical tab, the form
feed, U+0085, U+00A0 and the other Unicode spaces. No blank payload is a JSON document
(`Json.read_of_isBlank`), so the blank test decides the outcome only on payloads that
unmarshalling refuses: there the empty draft stands in for a refused one
(`Hub.route_by_payload`). A heartbeat of one no-break space is handled as a heartbeat without a
flag, not dropped as malformed (`Hub.route_handles_no_break_space_heartbeat`).
-/

namespace DeliveryFleet

/-! ## Unicode blanks among bytes -/

namespace Space

theorem isBlank_nil : isBlank [] = true := by
  simp [isBlank, Utf8.decode, Utf8.pieces_nil]

theorem isBlank_cons_ascii {b : UInt8} (hb : b < 0x80) (rest : List UInt8) :
    isBlank (b :: rest) = (isSpace (Char.ofNat b.toNat) && isBlank rest) := by
  simp [isBlank, Utf8.decode, Utf8.pieces_cons_ascii hb, Utf8.Piece.toChar]

/-- An ASCII byte is white space exactly when it is a control from tab to carriage return or the
space. -/
theorem isSpace_ascii {b : UInt8} (hb : b < 0x80) :
    isSpace (Char.ofNat b.toNat) = true ↔ (9 ≤ b.toNat ∧ b.toNat ≤ 13) ∨ b.toNat = 32 := by
  have hlt : b.toNat < 128 := by simpa [UInt8.lt_iff_toNat_lt] using hb
  have hchar : (Char.ofNat b.toNat).toNat = b.toNat := by
    rw [Char.toNat_ofNat, if_pos (by simp only [Nat.isValidChar]; omega)]
  simp only [isSpace, hchar]
  simp
  omega

end Space

namespace Json

theorem toNat_of_isBlank {b : UInt8} (h : isBlank b = true) :
    b.toNat = 32 ∨ b.toNat = 9 ∨ b.toNat = 10 ∨ b.toNat = 13 := by
  simp only [isBlank, Bool.or_eq_true, beq_iff_eq] at h
  rcases h with ((rfl | rfl) | rfl) | rfl <;> simp

theorem lt_of_isBlank {b : UInt8} (h : isBlank b = true) : b < 0x80 := by
  have := toNat_of_isBlank h
  rw [UInt8.lt_iff_toNat_lt]
  simp only [UInt8.reduceToNat]
  omega

/-- A JSON blank is white space. -/
theorem isSpace_of_isBlank {b : UInt8} (h : isBlank b = true) :
    Space.isSpace (Char.ofNat b.toNat) = true := by
  have := toNat_of_isBlank h
  rw [Space.isSpace_ascii (lt_of_isBlank h)]
  omega

/-- Skipping blanks stops at a byte that is no blank. -/
theorem isBlank_head_skipBlanks {bs rest : List UInt8} {b : UInt8}
    (h : skipBlanks bs = b :: rest) : isBlank b = false := by
  induction bs with
  | nil => simp [skipBlanks] at h
  | cons c cs ih =>
    by_cases hc : isBlank c
    · rw [skipBlanks, if_pos hc] at h
      exact ih h
    · rw [skipBlanks, if_neg hc, List.cons.injEq] at h
      rw [← h.1]
      simpa using hc

/-- Skipping JSON blanks keeps a payload blank. -/
theorem isBlank_skipBlanks {bs : List UInt8} (h : Space.isBlank bs = true) :
    Space.isBlank (skipBlanks bs) = true := by
  induction bs with
  | nil => exact h
  | cons c cs ih =>
    by_cases hc : isBlank c
    · rw [Space.isBlank_cons_ascii (lt_of_isBlank hc), Bool.and_eq_true] at h
      rw [skipBlanks, if_pos hc]
      exact ih h.2
    · rwa [skipBlanks, if_neg hc]

/-- The first byte of a blank payload that is no JSON blank is a vertical tab, a form feed or the
lead byte of a longer sequence. -/
theorem head_of_isBlank {b : UInt8} {rest : List UInt8} (h : Space.isBlank (b :: rest) = true)
    (hb : isBlank b = false) : b.toNat = 11 ∨ b.toNat = 12 ∨ 128 ≤ b.toNat := by
  by_cases hascii : b < 0x80
  · rw [Space.isBlank_cons_ascii hascii, Bool.and_eq_true, Space.isSpace_ascii hascii] at h
    -- of the ASCII white space only the vertical tab and the form feed are no JSON blanks
    have hnot : ¬ (b.toNat = 32 ∨ b.toNat = 9 ∨ b.toNat = 10 ∨ b.toNat = 13) := by
      simp only [isBlank, Bool.or_eq_false_iff, beq_eq_false_iff_ne, ne_eq] at hb
      simp only [← UInt8.toNat_inj, UInt8.reduceToNat] at hb
      omega
    omega
  · rw [UInt8.lt_iff_toNat_lt] at hascii
    simp only [UInt8.reduceToNat] at hascii
    omega

/-- A blank payload holds no value: reading one fails at its end or at its first byte that is no
JSON blank. -/
theorem readValue_of_isBlank (fuel depth : Nat) {bs : List UInt8}
    (h : Space.isBlank bs = true) : ∃ e, readValue fuel depth bs = .error e := by
  cases fuel with
  | zero => exact ⟨_, by rw [readValue]⟩
  | succ fuel =>
    rw [readValue]
    rcases hs : skipBlanks bs with _ | ⟨b, rest⟩
    · exact ⟨_, rfl⟩
    · have hhead := head_of_isBlank (hs ▸ isBlank_skipBlanks h) (isBlank_head_skipBlanks hs)
      -- no byte that starts a value is a vertical tab, a form feed or a lead byte
      have hstarts : b ≠ 0x7B ∧ b ≠ 0x5B ∧ b ≠ 0x22 ∧ b ≠ 0x2D ∧ isDigit b = false ∧
          b ≠ 0x74 ∧ b ≠ 0x66 ∧ b ≠ 0x6E := by
        simp only [isDigit, Bool.and_eq_false_iff, decide_eq_false_iff_not, ne_eq,
          ← UInt8.toNat_inj, UInt8.le_iff_toNat_le, UInt8.reduceToNat]
        omega
      obtain ⟨h1, h2, h3, h4, h5, h6, h7, h8⟩ := hstarts
      simp [h1, h2, h3, h4, h5, h6, h7, h8]

/-- No blank payload is a JSON document. -/
theorem read_of_isBlank {bs : List UInt8} (h : Space.isBlank bs = true) :
    ∃ e, read bs = .error e := by
  obtain ⟨e, he⟩ := readValue_of_isBlank (2 * bs.length + 2) 0 h
  exact ⟨e, by rw [read, he]⟩

end Json

/-- Every payload of JSON blanks alone, the empty one included, is blank. -/
theorem Space.isBlank_of_json_blanks {bs : List UInt8} (h : ∀ b ∈ bs, Json.isBlank b = true) :
    isBlank bs = true := by
  induction bs with
  | nil => exact isBlank_nil
  | cons c cs ih =>
    have hc := h c List.mem_cons_self
    rw [isBlank_cons_ascii (Json.lt_of_isBlank hc), Json.isSpace_of_isBlank hc,
      ih fun b hb => h b (List.mem_cons_of_mem c hb)]
    rfl

/-! ## Unmarshalling -/

/-- The payload unmarshalled into a kind's members: one JSON document whose members, by the
kind's fields, fill the empty draft. -/
def Draft.unmarshal (k : Kind) (payload : List UInt8) : Option Draft :=
  match Json.read payload with
  | .error _ => none
  | .ok j =>
    match Record.read (Draft.fieldsOf k) "message" {} j with
    | .ok d => some d
    | .error _ => none

/-- A blank payload reads as the empty draft, any other as it unmarshals. -/
theorem Draft.read?_eq (k : Kind) (payload : List UInt8) :
    Draft.read? k payload =
      if Space.isBlank payload then some {} else Draft.unmarshal k payload := rfl

/-- Unmarshalling refuses every blank payload. -/
theorem Draft.unmarshal_of_isBlank (k : Kind) {payload : List UInt8}
    (h : Space.isBlank payload = true) : Draft.unmarshal k payload = none := by
  obtain ⟨e, he⟩ := Json.read_of_isBlank h
  simp [Draft.unmarshal, he]

/-! ## Routing by what the payload reads as -/

namespace Hub

/-- What routing a message of a kind from a robot does with the validated message, or with none:
none is counted malformed, a message goes to the handler and is counted by its result. -/
def dispatch (h : Hub) (k : Kind) (robot : String) : Option Message → (String × String) × Hub
  | none => ((k.name, "malformed"), h.countMessage k.name "malformed")
  | some m =>
    ((k.name, (h.handle robot m).1), (h.handle robot m).2.countMessage k.name (h.handle robot m).1)

/-- Only a missing message is malformed: the handler counts `handled` or `failed`. -/
theorem dispatch_malformed_iff (h : Hub) (k : Kind) (robot : String) (m? : Option Message) :
    (h.dispatch k robot m?).1.2 = "malformed" ↔ m? = none := by
  cases m? with
  | none => simp [dispatch]
  | some m =>
    rcases handle_result_cases (h := h) robot m with hs | hs <;> simp [dispatch, hs]

theorem route_eq_dispatch {h : Hub} {topic : List UInt8} {k : Kind} {robot : String}
    (hm : Route.match? h.settings.root topic = some (k, robot)) (payload : List UInt8) :
    h.route topic payload = h.dispatch k robot (Message.decode k payload) := by
  rcases hd : Message.decode k payload with _ | m <;> simp [route, hm, hd, dispatch]

/-- For every hub, topic of a kind and payload: a payload of JSON blanks is blank; a blank
payload, which unmarshalling refuses, is routed as the empty draft validated and handled; any
other payload is routed as the draft it unmarshals into, validated and handled, and is malformed
exactly when it does not unmarshal or its draft fails the kind's checks. -/
theorem route_by_payload (h : Hub) (topic : List UInt8) (k : Kind) (robot : String)
    (payload : List UInt8) (hm : Route.match? h.settings.root topic = some (k, robot)) :
    ((∀ b ∈ payload, Json.isBlank b = true) → Space.isBlank payload = true) ∧
    (Space.isBlank payload = true →
      Draft.unmarshal k payload = none ∧
        h.route topic payload = h.dispatch k robot (({} : Draft).toMessage? k)) ∧
    (Space.isBlank payload = false →
      h.route topic payload =
        h.dispatch k robot ((Draft.unmarshal k payload).bind fun d => d.toMessage? k)) ∧
    (∀ m? : Option Message, (h.dispatch k robot m?).1.2 = "malformed" ↔ m? = none) := by
  refine ⟨Space.isBlank_of_json_blanks, fun hb => ⟨Draft.unmarshal_of_isBlank k hb, ?_⟩,
    fun hb => ?_, dispatch_malformed_iff h k robot⟩
  · rw [route_eq_dispatch hm, Message.decode, Draft.read?_eq, if_pos hb, Option.bind_some]
  · rw [route_eq_dispatch hm, Message.decode, Draft.read?_eq, if_neg (by simp [hb])]

/-- A fleet hub at the start of 2024 with the default settings. -/
def payloadDemo : Hub := Hub.fresh {} (Instant.ofCivil 2024 1 1 0 0 0 0) 30000000000 5000 []

theorem match?_payloadDemo_heartbeat :
    Route.match? payloadDemo.settings.root (Utf8.encode "robot/R1/heartbeat") =
      some (.heartbeat, "R1") :=
  Route.match?_eq_some_iff.2 (Route.names_encode_iff.2 ⟨by decide, by decide, by decide⟩)

/-- Routing under the default root, a robot's heartbeat topic. -/
theorem route_by_payload_heartbeat :
    Route.match? payloadDemo.settings.root (Utf8.encode "robot/R1/heartbeat") =
      some (.heartbeat, "R1") ∧
    ((∀ b ∈ [0x20, 0x0A], Json.isBlank b = true) → Space.isBlank [0x20, 0x0A] = true) ∧
    (Space.isBlank [0x20, 0x0A] = true →
      Draft.unmarshal .heartbeat [0x20, 0x0A] = none ∧
        payloadDemo.route (Utf8.encode "robot/R1/heartbeat") [0x20, 0x0A] =
          payloadDemo.dispatch .heartbeat "R1" (({} : Draft).toMessage? .heartbeat)) ∧
    (Space.isBlank [0x20, 0x0A] = false →
      payloadDemo.route (Utf8.encode "robot/R1/heartbeat") [0x20, 0x0A] =
        payloadDemo.dispatch .heartbeat "R1"
          ((Draft.unmarshal .heartbeat [0x20, 0x0A]).bind fun d => d.toMessage? .heartbeat)) ∧
    (∀ m? : Option Message,
      (payloadDemo.dispatch .heartbeat "R1" m?).1.2 = "malformed" ↔ m? = none) :=
  ⟨match?_payloadDemo_heartbeat, route_by_payload payloadDemo (Utf8.encode "robot/R1/heartbeat")
    .heartbeat "R1" [0x20, 0x0A] match?_payloadDemo_heartbeat⟩

/-- A heartbeat of one no-break space (U+00A0) is neither empty nor JSON blanks, and it does not
unmarshal, yet it is handled as a heartbeat without a flag. -/
theorem route_handles_no_break_space_heartbeat :
    ¬ ∀ (h : Hub) (topic : List UInt8) (k : Kind) (robot : String) (payload : List UInt8),
      Route.match? h.settings.root topic = some (k, robot) →
      (∃ b ∈ payload, Json.isBlank b = false) → Draft.unmarshal k payload = none →
        (h.route topic payload).1.2 = "malformed" := by
  intro hclaim
  have hm := match?_payloadDemo_heartbeat
  have hblank : Space.isBlank [0xC2, 0xA0] = true := by
    simp [Space.isBlank, Utf8.decode, Utf8.pieces, Utf8.isTail, Utf8.Piece.toChar, Space.isSpace,
      Utf8.tailBits]
  have hmal := hclaim payloadDemo (Utf8.encode "robot/R1/heartbeat") .heartbeat "R1" [0xC2, 0xA0] hm
    ⟨0xC2, List.mem_cons_self, by decide⟩ (Draft.unmarshal_of_isBlank .heartbeat hblank)
  rw [route_eq_dispatch hm, dispatch_malformed_iff, Message.decode, Draft.read?_eq,
    if_pos hblank] at hmal
  exact absurd hmal (by simp [Draft.toMessage?])

end Hub

end DeliveryFleet
