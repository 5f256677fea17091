import DeliveryFleet.Hub.Telemetry
import DeliveryFleet.Http.Request
import DeliveryFleet.Http.Path

/-!
# The operations endpoint

A small HTTP surface for operators (`Hub.serveHttp`):

* `GET /healthz` answers `ok`;
* `GET /readyz` answers `ok` when every readiness check passes (the broker connection and the
  store), and otherwise 503 with the failing checks and their texts;
* `GET /debug/robots/{id}` answers everything cached for a robot and whether it is alive.

A request is first read from its method and target (`RequestHead.read`); one that does not read
fails with the reason. A path that is not clean is redirected (301) to the target with its clean
path (`Path.clean`); a known path asked with another method answers 405, and anything else 404.
A robot's id is the path segment as bytes: one that is not well-formed UTF-8 names no robot.
-/

namespace DeliveryFleet

/-- The body of an HTTP reply. -/
inductive Body where
  | text (s : String)
  | json (j : Json)

/-- An HTTP reply. -/
structure Reply where
  status : Nat
  contentType : String
  location : Option String := none
  body : Body

/-- A reply as JSON: status, content type, location if any, and the body, parsed when it is
JSON. -/
def Reply.toJson (r : Reply) : Json :=
  .object ([("status", Json.ofNat r.status), ("contentType", .string r.contentType)] ++
    (match r.location with
      | some l => [("location", .string l)]
      | none => []) ++
    (match r.body with
      | .text s => [("body", .string s)]
      | .json j => [("json", j)]))

namespace Reply

/-- The plain `ok` of a passing check. -/
def ok : Reply := ⟨200, "", none, .text "ok"⟩

/-- Nothing is served at the path. -/
def notFound : Reply := ⟨404, "text/plain; charset=utf-8", none, .text "404 page not found\n"⟩

/-- The path is served, but not for this method. -/
def methodNotAllowed : Reply := ⟨405, "", none, .text ""⟩

/-- A JSON reply. -/
def json (status : Nat) (j : Json) : Reply := ⟨status, "application/json", none, .json j⟩

end Reply

/-- The endpoints a path may name. -/
inductive Endpoint where
  | health
  | ready
  | robot (id : List UInt8)

/-- The endpoint a clean path names. -/
def Endpoint.ofPath? (p : List UInt8) : Option Endpoint :=
  let robots := "/debug/robots/".toUTF8.toList
  if p == "/healthz".toUTF8.toList then some .health
  else if p == "/readyz".toUTF8.toList then some .ready
  else if p.take robots.length == robots then
    let id := p.drop robots.length
    if id.isEmpty || id.contains 47 then none else some (.robot id)
  else none

namespace Hub

/-- The readiness checks that fail, with their texts. -/
def failingChecks (h : Hub) : List (String × Json) :=
  (if h.settings.mqttReady then [] else [("mqtt", .string "mqtt client not connected")]) ++
  (match h.store.ping with
    | some e => [("store", .string e)]
    | none => [])

/-- What the hub shows of a robot: its cached readings and whether it is alive. An id that is
not well-formed text names no robot. -/
def robotView (h : Hub) (id : List UInt8) : Json :=
  match Utf8.text? id with
  | some s => .object (h.cache.snapshot s ++ [("alive", .bool (h.isOnline s))])
  | none => .object [("robotId", .string (Utf8.decodeString id)), ("alive", .bool false)]

/-- Serves a request; fails with the reason a request head does not read. -/
def serveHttp (h : Hub) (method target : String) : Except String Reply :=
  match RequestHead.read method target with
  | .error e => .error e
  | .ok req =>
    let path := req.url.path
    let cleaned := Path.clean path
    if cleaned != path then
      .ok ⟨301, "", some (Utf8.decodeString { req.url with path := cleaned }.render), .text ""⟩
    else
      match Endpoint.ofPath? path with
      | none => .ok Reply.notFound
      | some e =>
        if req.method != "GET" then .ok Reply.methodNotAllowed
        else
          match e with
          | .health => .ok Reply.ok
          | .ready =>
            match h.failingChecks with
            | [] => .ok Reply.ok
            | fs => .ok (Reply.json 503 (.object fs))
          | .robot id => .ok (Reply.json 200 (h.robotView id))

end Hub

end DeliveryFleet
