import DeliveryFleet.Json.Read
import DeliveryFleet.Console.Request
import DeliveryFleet.Console.Failure
import DeliveryFleet.Topic.Layout
import DeliveryFleet.Topic.Filter
import DeliveryFleet.Topic.Worker
import DeliveryFleet.Mail.Message
import DeliveryFleet.Console.Configure
import DeliveryFleet.Console.Scenario

/-!
# The console

The console serves one request per line (`Console.respond`): a JSON object whose `op` names what
to do, answered by one JSON object on one line. Stateless operations answer from the library
directly: topic layout (`topic`), filter matching (`topic_match`), queue choice
(`worker_index`), mail text (`mail_message`) and the shape of a pickup code (`generate_code`).
-/

namespace DeliveryFleet.Console

/-- The answer to a `topic` request: the topic the function `fn` lays out. -/
def topicAnswer (req : Json) : Except Failure Json :=
  let root := Layout.root (Request.text req "root")
  let robot := Request.text req "robot"
  let kind := Request.text req "kind"
  let container := Request.text req "containerCode"
  match Request.text req "fn" with
  | "root" => .ok (.string root)
  | "telemetry" => .ok (.string (Layout.telemetry root robot kind))
  | "wildcard" => .ok (.string (Layout.wildcard root kind))
  | "subscriptions" => .ok (.array ((Layout.subscriptions root).map .string))
  | "move" => .ok (.string (Layout.move root robot))
  | "qr" => .ok (.string (Layout.qr root robot))
  | "pickup" => .ok (.string (Layout.containerPickup root robot container))
  | "load" => .ok (.string (Layout.containerLoad root robot container))
  | other => .error (.badInput ("unknown fn " ++ other))

/-- The answer to a `topic_match` request. -/
def topicMatchAnswer (req : Json) : Json :=
  let filter := Filter.unshare (Utf8.encode (Request.text req "filter"))
  .object [("filter", .string (Utf8.decodeString filter)),
    ("match", .bool (Filter.accepts filter (Utf8.encode (Request.text req "topic"))))]

/-- The answer to a `worker_index` request. -/
def workerAnswer (req : Json) : Except Failure Json :=
  match Worker.index (Request.text req "topic") (Request.int req "n") with
  | some i => .ok (.object [("index", Json.ofNat i)])
  | none => .error Failure.divideByZero

/-- The answer to a `mail_message` request. -/
def mailAnswer (req : Json) : Json :=
  .object [("message", .string (Mail.message (Request.text req "from") (Request.text req "to")
    (Request.text req "subject") (Request.text req "body")))]

/-- Serves one request. -/
def serve (req : Json) : Except Failure Json :=
  match Request.text req "op" with
  | "topic" => (fun v => .object [("value", v)]) <$> topicAnswer req
  | "topic_match" => .ok (topicMatchAnswer req)
  | "worker_index" => workerAnswer req
  | "mail_message" => .ok (mailAnswer req)
  | "options" => optionsAnswer req
  | "scenario" => scenarioAnswer req
  | "generate_code" => .ok (codeAnswer (Worker.fnv1a (Json.render req).toUTF8.toList))
  | other => .error (.badInput ("unknown op " ++ other))

/-- The answer line to a request line. -/
def respond (line : String) : String :=
  match Json.readText line with
  | .error e => (Failure.badJson e.message).toJson.render
  | .ok req =>
    match serve req with
    | .ok answer => answer.render
    | .error f => f.toJson.render

end DeliveryFleet.Console
