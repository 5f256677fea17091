import DeliveryFleet.Proofs.Pickup.Closing
import DeliveryFleet.Proofs.Topic.Routing

/-!
# What routing counts

Routing a message counts it once in the message tally, under its kind and one of four results
(`Hub.route_messages`, `Hub.route_result_cases`):

* `unmatched`, exactly when the topic names no kind (`Hub.route_unmatched_iff`);
* `malformed`, exactly when the payload does not decode as a valid message of the kind
  (`Hub.route_malformed_iff`); then nothing but the tally changes (`Hub.route_malformed`), and a
  location without both coordinates or a battery report without a charge is such a payload
  (`Hub.route_malformed_of_missing`);
* `failed`, exactly when the message is a container's report that closes a pickup and the
  completion answered `serverError` (`Hub.route_failed_iff`), which happens exactly when the store
  is closed (`Hub.complete_serverError_iff`);
* `handled` otherwise (`Hub.route_handled_iff`).

Nothing but routing touches the message tally: applying a message and completing a pickup count
only writes and pickup outcomes (`Hub.apply_messages`, `Hub.complete_messages`).
-/

namespace DeliveryFleet

theorem Outcome.beq_serverError (x : Outcome) : (x == .serverError) = decide (x = .serverError) := by
  cases x <;> rfl

namespace Hub

variable {h : Hub}

/-! ## The message tally -/

@[simp] theorem push_messages (t : WriteTask) :
    (h.push t).counters.messages = h.counters.messages := by
  unfold push
  dsimp only
  split <;> rfl

@[simp] theorem scheduleRobot_messages (r : String) :
    (h.scheduleRobot r).counters.messages = h.counters.messages := by
  unfold scheduleRobot
  split <;> simp

@[simp] theorem scheduleContainer_messages (r code : String) :
    (h.scheduleContainer r code).counters.messages = h.counters.messages := by
  unfold scheduleContainer
  split <;> simp

@[simp] theorem wentOffline_messages (robots : List String) :
    (h.wentOffline robots).counters.messages = h.counters.messages := by
  -- going offline schedules the robots' rows one after the other
  induction robots generalizing h with
  | nil => rfl
  | cons r rs ih =>
    show (wentOffline _ rs).counters.messages = _
    rw [ih, scheduleRobot_messages]

@[simp] theorem apply_messages (r : String) (m : Message) :
    (h.apply r m).counters.messages = h.counters.messages := by
  cases m with
  | heartbeat alive => cases alive <;> simp [apply, heartbeat, touch]
  | container v o t => simp [apply, putContainer, withCache]
  | _ => simp [apply, touch, withCache]

@[simp] theorem complete_messages (o t : String) :
    (h.complete o t).2.counters.messages = h.counters.messages := by
  rw [complete, runPickup_eq, Attempt.run_complete_store]
  rfl

@[simp] theorem handle_messages (r : String) (m : Message) :
    (h.handle r m).2.counters.messages = h.counters.messages := by
  unfold handle
  cases m with
  | container v o t =>
    dsimp only
    split <;> simp
  | _ => simp

/-! ## Handling -/

/-- A handled message counts `failed` exactly when it closes a pickup whose completion answered
`serverError`. -/
theorem handle_failed_iff (r : String) (m : Message) :
    (h.handle r m).1 = "failed" ↔
      ∃ o t, h.settings.closes? m = some (o, t) ∧ ((h.apply r m).complete o t).1 = .serverError := by
  unfold handle
  cases m with
  | container v o t =>
    dsimp only
    split
    · rename_i hc
      rw [apply_settings] at hc
      have hcl : h.settings.closes? (.container v o t) = some (o, t) := if_pos hc
      by_cases hs : ((h.apply r (.container v o t)).complete o t).1 = .serverError <;>
        simp [hs, hcl, Outcome.beq_serverError]
    · rename_i hc
      rw [apply_settings] at hc
      have hcl : h.settings.closes? (.container v o t) = none := if_neg hc
      simp [hcl]
  | _ => simp [Settings.closes?]

/-- A handled message counts `failed` or `handled`. -/
theorem handle_result_cases (r : String) (m : Message) :
    (h.handle r m).1 = "failed" ∨ (h.handle r m).1 = "handled" := by
  unfold handle
  cases m with
  | container v o t =>
    dsimp only
    split
    · dsimp only
      split
      · exact .inl rfl
      · exact .inr rfl
    · exact .inr rfl
  | _ => exact .inr rfl

/-! ## Routing -/

/-- Routing counts a topic of no kind as unmatched, a payload that does not decode as malformed,
and otherwise handles the message it decodes as. -/
theorem route_cases (h : Hub) (topic payload : List UInt8) :
    (Route.match? h.settings.root topic = none ∧
      h.route topic payload = (("unknown", "unmatched"), h.countMessage "unknown" "unmatched")) ∨
    (∃ k robot, Route.match? h.settings.root topic = some (k, robot) ∧
      Message.decode k payload = none ∧
      h.route topic payload = ((k.name, "malformed"), h.countMessage k.name "malformed")) ∨
    (∃ k robot m, Route.match? h.settings.root topic = some (k, robot) ∧
      Message.decode k payload = some m ∧
      h.route topic payload = ((k.name, (h.handle robot m).1),
        (h.handle robot m).2.countMessage k.name (h.handle robot m).1)) := by
  rcases hm : Route.match? h.settings.root topic with _ | ⟨k, robot⟩
  · exact .inl ⟨rfl, route_unmatched payload hm⟩
  rcases hd : Message.decode k payload with _ | m
  · exact .inr (.inl ⟨k, robot, rfl, hd, by simp [route, hm, hd]⟩)
  · exact .inr (.inr ⟨k, robot, m, rfl, hd, by simp [route, hm, hd]⟩)

variable (topic payload : List UInt8)

/-- Routing counts exactly one message, under the kind and the result it answers. -/
theorem route_messages :
    (h.route topic payload).2.counters.messages =
      h.counters.messages.bump ((h.route topic payload).1.1 ++ "/" ++ (h.route topic payload).1.2) := by
  rcases route_cases h topic payload with ⟨-, hr⟩ | ⟨k, robot, -, -, hr⟩ | ⟨k, robot, m, -, -, hr⟩ <;>
    rw [hr] <;> simp [countMessage]

theorem route_result_cases :
    (h.route topic payload).1.2 = "unmatched" ∨ (h.route topic payload).1.2 = "malformed" ∨
      (h.route topic payload).1.2 = "failed" ∨ (h.route topic payload).1.2 = "handled" := by
  rcases route_cases h topic payload with ⟨-, hr⟩ | ⟨k, robot, -, -, hr⟩ | ⟨k, robot, m, -, -, hr⟩
  · exact .inl (by rw [hr])
  · exact .inr (.inl (by rw [hr]))
  · rw [hr]
    exact .inr (.inr (handle_result_cases robot m))

theorem route_unmatched_iff :
    (h.route topic payload).1.2 = "unmatched" ↔ Route.match? h.settings.root topic = none := by
  rcases route_cases h topic payload with ⟨hm, hr⟩ | ⟨k, robot, hm, -, hr⟩ | ⟨k, robot, m, hm, -, hr⟩
  · simp [hr, hm]
  · simp [hr, hm]
  · rw [hr, hm]
    rcases handle_result_cases (h := h) robot m with hs | hs <;> simp [hs]

theorem route_malformed_iff :
    (h.route topic payload).1.2 = "malformed" ↔
      ∃ k robot, Route.match? h.settings.root topic = some (k, robot) ∧
        Message.decode k payload = none := by
  rcases route_cases h topic payload with ⟨hm, hr⟩ | ⟨k, robot, hm, hd, hr⟩ |
    ⟨k, robot, m, hm, hd, hr⟩
  · simp [hr, hm]
  · simp only [hr, hm, Option.some.injEq, Prod.mk.injEq, true_iff]
    exact ⟨k, robot, ⟨rfl, rfl⟩, hd⟩
  · simp only [hr, hm, Option.some.injEq, Prod.mk.injEq]
    constructor
    · intro hs
      rcases handle_result_cases (h := h) robot m with hs' | hs' <;> simp [hs'] at hs
    · rintro ⟨k', robot', ⟨rfl, rfl⟩, hd'⟩
      simp [hd] at hd'

/-- A malformed message changes nothing but the message tally. -/
theorem route_malformed (hmal : (h.route topic payload).1.2 = "malformed") :
    (h.route topic payload).2 = h.countMessage (h.route topic payload).1.1 "malformed" := by
  obtain ⟨k, robot, hm, hd⟩ := (route_malformed_iff topic payload).1 hmal
  simp [route, hm, hd]

/-- A location without both coordinates, or a battery report without a charge, is malformed:
the handlers never see a missing reading. -/
theorem route_malformed_of_missing {k : Kind} {robot : String} {d : Draft}
    (hm : Route.match? h.settings.root topic = some (k, robot)) (hd : Draft.read? k payload = some d)
    (hmiss : (k = .location ∧ (d.lat = none ∨ d.lon = none)) ∨ (k = .battery ∧ d.battery = none)) :
    (h.route topic payload).1.2 = "malformed" := by
  refine (route_malformed_iff topic payload).2 ⟨k, robot, hm, ?_⟩
  rw [Message.decode, hd, Option.bind_some]
  rcases hmiss with ⟨rfl, hl | hl⟩ | ⟨rfl, hb⟩
  · simp [Draft.toMessage?, hl]
  · simp [Draft.toMessage?, hl]
  · simp [Draft.toMessage?, hb]

theorem route_failed_iff :
    (h.route topic payload).1.2 = "failed" ↔
      ∃ robot m o t, h.settings.accepted? topic payload = some (robot, m) ∧
        h.settings.closes? m = some (o, t) ∧ ((h.apply robot m).complete o t).1 = .serverError := by
  rcases route_cases h topic payload with ⟨hm, hr⟩ | ⟨k, robot, hm, hd, hr⟩ |
    ⟨k, robot, m, hm, hd, hr⟩
  · simp [hr, Settings.accepted?, hm]
  · simp [hr, Settings.accepted?, hm, hd]
  · rw [hr]
    simp only [Settings.accepted?, hm, hd, Option.map_some, Option.some.injEq, Prod.mk.injEq]
    rw [handle_failed_iff]
    constructor
    · rintro ⟨o, t, hc, hs⟩
      exact ⟨robot, m, o, t, ⟨rfl, rfl⟩, hc, hs⟩
    · rintro ⟨robot', m', o, t, ⟨rfl, rfl⟩, hc, hs⟩
      exact ⟨o, t, hc, hs⟩

theorem route_handled_iff :
    (h.route topic payload).1.2 = "handled" ↔
      ∃ robot m, h.settings.accepted? topic payload = some (robot, m) ∧
        ∀ o t, h.settings.closes? m = some (o, t) → ((h.apply robot m).complete o t).1 ≠ .serverError := by
  rcases route_cases h topic payload with ⟨hm, hr⟩ | ⟨k, robot, hm, hd, hr⟩ |
    ⟨k, robot, m, hm, hd, hr⟩
  · simp [hr, Settings.accepted?, hm]
  · simp [hr, Settings.accepted?, hm, hd]
  · rw [hr]
    simp only [Settings.accepted?, hm, hd, Option.map_some, Option.some.injEq, Prod.mk.injEq]
    -- a handled message did not fail, and the two results are all there are
    have hnot : (h.handle robot m).1 = "handled" ↔ ¬ (h.handle robot m).1 = "failed" := by
      rcases handle_result_cases (h := h) robot m with hs | hs <;> simp [hs]
    rw [hnot, handle_failed_iff]
    constructor
    · intro hn
      exact ⟨robot, m, ⟨rfl, rfl⟩, fun o t hc hs => hn ⟨o, t, hc, hs⟩⟩
    · rintro ⟨robot', m', ⟨rfl, rfl⟩, hall⟩ ⟨o, t, hc, hs⟩
      exact hall o t hc hs

/-- Routing fails exactly on a report that closes a pickup while the store is closed. -/
theorem route_failed_iff_closed :
    (h.route topic payload).1.2 = "failed" ↔
      (∃ robot m, h.settings.accepted? topic payload = some (robot, m) ∧
        (h.settings.closes? m).isSome) ∧ h.store.closed = true := by
  rw [route_failed_iff]
  constructor
  · rintro ⟨robot, m, o, t, ha, hc, hs⟩
    rw [complete_serverError_iff, apply_store] at hs
    exact ⟨⟨robot, m, ha, by simp [hc]⟩, hs⟩
  · rintro ⟨⟨robot, m, ha, hc⟩, hs⟩
    obtain ⟨⟨o, t⟩, hot⟩ := Option.isSome_iff_exists.1 hc
    exact ⟨robot, m, o, t, ha, hot, by rw [complete_serverError_iff, apply_store, hs]⟩

/-- Routing counts every message exactly once in the message tally, under its kind and one of
four results: `unmatched` exactly when the topic names no kind; `malformed` exactly when the
payload does not decode as a valid message of the kind, which changes nothing but the tally and
which a location without both coordinates or a battery report without a charge always is;
`failed` exactly when the message is a container's report that closes a pickup and the
completion answered `serverError`; and `handled` otherwise. -/
theorem route_counts_each_message (h : Hub) (topic payload : List UInt8) :
    (h.route topic payload).2.counters.messages =
      h.counters.messages.bump ((h.route topic payload).1.1 ++ "/" ++ (h.route topic payload).1.2) ∧
    ((h.route topic payload).1.2 = "unmatched" ∨ (h.route topic payload).1.2 = "malformed" ∨
      (h.route topic payload).1.2 = "failed" ∨ (h.route topic payload).1.2 = "handled") ∧
    ((h.route topic payload).1.2 = "unmatched" ↔ Route.match? h.settings.root topic = none) ∧
    ((h.route topic payload).1.2 = "malformed" ↔
      ∃ k robot, Route.match? h.settings.root topic = some (k, robot) ∧
        Message.decode k payload = none) ∧
    ((h.route topic payload).1.2 = "malformed" →
      (h.route topic payload).2 = h.countMessage (h.route topic payload).1.1 "malformed") ∧
    (∀ k robot d, Route.match? h.settings.root topic = some (k, robot) →
      Draft.read? k payload = some d →
      (k = .location ∧ (d.lat = none ∨ d.lon = none)) ∨ (k = .battery ∧ d.battery = none) →
      (h.route topic payload).1.2 = "malformed") ∧
    ((h.route topic payload).1.2 = "failed" ↔
      ∃ robot m o t, h.settings.accepted? topic payload = some (robot, m) ∧
        h.settings.closes? m = some (o, t) ∧ ((h.apply robot m).complete o t).1 = .serverError) ∧
    ((h.route topic payload).1.2 = "handled" ↔
      ∃ robot m, h.settings.accepted? topic payload = some (robot, m) ∧
        ∀ o t, h.settings.closes? m = some (o, t) →
          ((h.apply robot m).complete o t).1 ≠ .serverError) :=
  ⟨route_messages topic payload, route_result_cases topic payload,
    route_unmatched_iff topic payload, route_malformed_iff topic payload,
    route_malformed topic payload, fun _ _ _ hm hd hmiss =>
      route_malformed_of_missing topic payload hm hd hmiss,
    route_failed_iff topic payload, route_handled_iff topic payload⟩

end Hub

end DeliveryFleet
