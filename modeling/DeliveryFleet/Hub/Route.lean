import DeliveryFleet.Hub.Telemetry
import DeliveryFleet.Hub.Pickup
import DeliveryFleet.Topic.Route

/-!
# Routing a robot message

`Hub.route` takes one inbound message, a topic and a payload, both as bytes. A topic of no kind
is counted `unknown/unmatched`; otherwise the payload is decoded as the kind's message and
validated, and a malformed one is counted as such and dropped. A valid message is applied to the
hub. A container reporting CLOSED (up to case) for an order and a trip closes that pickup when
completion is enabled; the message counts as `failed` only when closing it broke off.

The answer is the kind's name and the result, as counted.
-/

namespace DeliveryFleet

/-- The container status that confirms a pickup. -/
def closedContainer : String := "CLOSED"

namespace Hub

/-- Applies a valid message, closing a confirmed pickup; answers the result to count. -/
def handle (h : Hub) (robot : String) (m : Message) : String × Hub :=
  let h := h.apply robot m
  match m with
  | .container v order trip =>
    if h.settings.completer && Fold.equalFold v.status closedContainer && !order.isEmpty &&
        !trip.isEmpty then
      let (o, h) := h.complete order trip
      (if o == .serverError then "failed" else "handled", h)
    else ("handled", h)
  | _ => ("handled", h)

/-- Routes one inbound message; answers its kind and result. -/
def route (h : Hub) (topic payload : List UInt8) : (String × String) × Hub :=
  match Route.match? h.settings.root topic with
  | none => (("unknown", "unmatched"), h.countMessage "unknown" "unmatched")
  | some (k, robot) =>
    let (result, h) := match Message.decode k payload with
      | none => ("malformed", h)
      | some m => h.handle robot m
    ((k.name, result), h.countMessage k.name result)

end Hub

end DeliveryFleet
