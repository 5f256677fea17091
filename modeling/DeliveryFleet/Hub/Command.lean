import DeliveryFleet.Json.Value
import DeliveryFleet.Topic.Layout

/-!
# Commands

What the fleet tells a robot to do (`Command`): open a container for a pickup, load a container,
invalidate the QR code of a trip, or move. Each command goes to a topic of its own under the root
(`Command.topic`) with a JSON payload (`Command.payload`); a move leaves out an empty trip code.
-/

namespace DeliveryFleet

/-- A command to a robot. -/
inductive Command where
  | openContainer (robot container orderCode tripCode : String)
  | loadContainer (robot container orderCode tripCode : String)
  | invalidateQr (robot tripCode : String)
  | move (robot tripCode destination : String)
  deriving Repr, BEq

namespace Command

/-- The topic a command is published on. -/
def topic (root : String) : Command → String
  | .openContainer robot container _ _ => Layout.containerPickup root robot container
  | .loadContainer robot container _ _ => Layout.containerLoad root robot container
  | .invalidateQr robot _ => Layout.qr root robot
  | .move robot _ _ => Layout.move root robot

/-- The JSON a command carries. -/
def body : Command → Json
  | .openContainer _ _ order trip =>
    .object [("orderCode", .string order), ("tripCode", .string trip), ("action", .string "OPEN")]
  | .loadContainer _ _ order trip =>
    .object [("orderCode", .string order), ("tripCode", .string trip), ("action", .string "LOAD")]
  | .invalidateQr _ trip => .object [("tripCode", .string trip), ("action", .string "INVALIDATE")]
  | .move _ trip destination =>
    .object ((if trip.isEmpty then [] else [("tripCode", .string trip)]) ++
      [("destination", .string destination)])

/-- The payload text of a command. -/
def payload (c : Command) : String := c.body.render

end Command

end DeliveryFleet
