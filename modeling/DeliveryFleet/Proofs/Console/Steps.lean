import Mathlib
import DeliveryFleet.Console.Scenario
import DeliveryFleet.Proofs.Pickup.Run

/-!
# What one step of a session does to the hub

A step of a session names its operation in its `op` field, and `Console.runStep` runs that
operation on the hub with the arguments the step names. `Console.StepMove h step h'` says once
what a step can make of the hub `h`: it leaves the hub as it was (a step that only answers, or
that breaks off), or it runs one of the hub's operations with the step's arguments: the clock
moving, routing a message, a cache read, a tracker call, a flush, a store write, a pickup
operation, a publication, or the store closing. Every step moves so (`Console.runStep_move`).

A proof of what a step keeps goes through the moves, one case per operation, and never through
the step's text again.
-/

namespace DeliveryFleet.Console

/-- What a step can make of the hub `h`: each operation with the guard that selects it. -/
inductive StepMove (h : Hub) (step : Json) : Hub → Prop
  | keep : StepMove h step h
  | advance (hop : Request.text step "op" = "advance") :
      StepMove h step { h with now := h.now.add (duration step "ns" "ms") }
  | route (hop : Request.text step "op" = "route") {payload : List UInt8}
      (hp : payloadOf step = .ok payload) :
      StepMove h step (h.route (Utf8.encode (Request.text step "topic")) payload).2
  | reading (hop : Request.text step "op" = "get") {r : Reading}
      (hr : Reading.ofName? (Request.text step "field") = some r) :
      StepMove h step (h.reading? (Request.text step "robot") r).2
  | container (hop : Request.text step "op" = "get_container") :
      StepMove h step (h.container? (Request.text step "robot")
        (Request.text step "containerCode")).2
  | isFree (hop : Request.text step "op" = "is_free") :
      StepMove h step (h.isFree (Request.text step "robot")).2
  | markOffline (hop : Request.text step "op" = "mark_offline") :
      StepMove h step (h.markOffline (Request.text step "robot"))
  | markAllOffline (hop : Request.text step "op" = "mark_all_offline") :
      StepMove h step h.markAllOffline.2
  | sweep (hop : Request.text step "op" = "sweep") : StepMove h step h.sweep.2
  | flush (hop : Request.text step "op" = "flush") : StepMove h step h.flush
  | saveTrip (hop : Request.text step "op" = "save_trip") {id : Nat} {s : Store}
      (hs : h.store.saveTrip (Request.text step "tripCode") (Request.text step "robotCode")
        (Request.text step "containerCode") (Request.text step "status") = .ok (id, s)) :
      StepMove h step { h with store := s }
  | saveOrder (hop : Request.text step "op" = "save_order") {id : Nat} {s : Store}
      (hs : h.store.saveOrder (Request.text step "orderCode") (Request.int step "tripId")
        (Request.text step "email") (Request.text step "status") = .ok (id, s)) :
      StepMove h step { h with store := s }
  | insertCode (hop : Request.text step "op" = "otp_insert") {row : CodeRow} {s : Store}
      (hs : h.store.insertCode row = .ok s) :
      StepMove h step { h with store := s }
  | send (hop : Request.text step "op" = "send") :
      StepMove h step (h.send (Request.text step "orderCode") (Request.text step "tripCode")).2
  | resend (hop : Request.text step "op" = "resend") :
      StepMove h step (h.resend (Request.text step "orderCode") (Request.text step "tripCode")).2
  | verify (hop : Request.text step "op" = "verify") :
      StepMove h step (h.verify (Request.text step "orderCode") (Request.text step "tripCode")
        (Request.text step "code")).2
  | complete (hop : Request.text step "op" = "complete") :
      StepMove h step
        (h.complete (Request.text step "orderCode") (Request.text step "tripCode")).2
  | cleanup (hop : Request.text step "op" = "cleanup") : StepMove h step h.cleanup.2
  | publish (hop : Request.text step "op" = "publish") {c : Command}
      (hc : commandOf? step = some c) : StepMove h step (h.publish c).1
  | closeStore (hop : Request.text step "op" = "close_store") :
      StepMove h step { h with store := { h.store with closed := true } }

theorem changeStore_move {α : Type} {h : Hub} {step : Json} {r : Except StoreError (α × Store)}
    {answer : α → Json} (hmove : ∀ a s, r = .ok (a, s) → StepMove h step { h with store := s }) :
    StepMove h step (changeStore h r answer).2 := by
  unfold changeStore
  split
  · exact hmove _ _ rfl
  · exact .keep

theorem insertCode_move {h : Hub} {step : Json} (hop : Request.text step "op" = "otp_insert") :
    StepMove h step (insertCode h step).2 := by
  unfold insertCode
  dsimp only
  generalize (⟨_, _, _, _, _, _, _, _⟩ : CodeRow) = row
  refine changeStore_move fun _ s hs => .insertCode hop (?_ : h.store.insertCode row = .ok s)
  -- the row's insertion is the store the answer carries
  revert hs
  cases h.store.insertCode row with
  | error e => exact fun he => nomatch he
  | ok s' => exact fun he => by cases he; rfl

theorem publishStep_move {h : Hub} {step : Json} (hop : Request.text step "op" = "publish") :
    StepMove h step (publishStep h step).2 := by
  unfold publishStep
  split
  · exact .keep
  · split
    · exact .keep
    · next c hc =>
      dsimp only
      split <;> exact .publish hop hc

/-- Every step moves the hub as one of its operations, or leaves it. -/
theorem runStep_move (h : Hub) (step : Json) : StepMove h step (runStep h step).2 := by
  unfold runStep
  dsimp only
  split
  next hop => exact .advance hop
  next => exact .keep
  next hop =>
    split
    next => exact .keep
    next hp => exact .route hop hp
  next => exact .keep
  next hop =>
    split
    next => exact .keep
    next hr => exact .reading hop hr
  next hop => exact .container hop
  next => exact .keep
  next hop => exact .isFree hop
  next => exact .keep
  next hop => exact .markOffline hop
  next hop => exact .markAllOffline hop
  next hop => exact .sweep hop
  next => exact .keep
  next => exact .keep
  next hop => exact .flush hop
  next => exact .keep
  next => exact .keep
  next => exact .keep
  next => exact .keep
  next hop => exact changeStore_move fun _ _ hs => .saveTrip hop hs
  next hop => exact changeStore_move fun _ _ hs => .saveOrder hop hs
  next => exact .keep
  next => exact .keep
  next hop => exact insertCode_move hop
  next => exact .keep
  next hop => exact .send hop
  next hop => exact .resend hop
  next hop => exact .verify hop
  next hop => exact .complete hop
  next hop =>
    -- both answers of a cleanup leave the hub it made
    have hmove : StepMove h step h.cleanup.2 := .cleanup hop
    revert hmove
    rcases h.cleanup with ⟨_ | _, h'⟩ <;> exact id
  next hop => exact publishStep_move hop
  next => split <;> exact .keep
  next hop => exact .closeStore hop
  next => exact .keep

end DeliveryFleet.Console
