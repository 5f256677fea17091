import DeliveryFleet.Topic.Kind
import DeliveryFleet.Text.Utf8

/-!
# Routing topics

A telemetry topic is the root, one level naming the robot, and the kind's name:
`root/robot/kind`, where the robot's level is not empty and holds no `/`. `Route.match?` tries
the kinds in match order (`Kind.matchOrder`) and answers the first that fits with the robot it
names.

A topic arrives as bytes, and the router's patterns read it as text the way a regular
expression does: each byte that starts no well-formed UTF-8 sequence reads as U+FFFD
(`Utf8.decode`). So a topic fits when its reading has the shape, and the robot is the text its
level reads as.
-/

namespace DeliveryFleet

/-- The robot a topic names for a kind under a root, if the topic, read as text, has that
shape. -/
def Kind.robotIn? (root : String) (k : Kind) (topic : List UInt8) : Option String :=
  let cs := Utf8.decode topic
  let head := (root ++ "/").toList
  let tail := ("/" ++ k.name).toList
  if head.isPrefixOf cs && tail.isSuffixOf cs && head.length + tail.length < cs.length then
    let robot := (cs.drop head.length).take (cs.length - head.length - tail.length)
    if robot.contains '/' then none else some (String.ofList robot)
  else none

/-- The first kind, in match order, whose shape a topic has, with the robot it names. -/
def Route.match? (root : String) (topic : List UInt8) : Option (Kind × String) :=
  Kind.matchOrder.findSome? fun k => (k.robotIn? root topic).map fun r => (k, r)

end DeliveryFleet
