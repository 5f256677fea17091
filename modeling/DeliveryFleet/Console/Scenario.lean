import DeliveryFleet.Console.Request
import DeliveryFleet.Console.Failure
import DeliveryFleet.Clock.Parse
import DeliveryFleet.Hub.Route
import DeliveryFleet.Hub.Ops
import DeliveryFleet.Text.Base64

/-!
# Sessions

A `scenario` request sets up a fresh hub from its `config` (`Console.setup`) and runs its steps
one after another on it (`Console.runSteps`), answering one result per step. A step names an
operation of the hub: moving the clock, routing a robot message, reading the cache, the liveness
operations, flushing the write-through queue, reading and writing the store, the pickup
operations, publishing a command, serving an HTTP request, or closing the store.

A step's result carries, besides its answer, what went out while it ran (`withOutbox`): the mails
accepted, the commands published and the robots that went offline, each only when there is some.
-/

namespace DeliveryFleet.Console

/-- Where the clock starts unless told otherwise: 2024-01-01T00:00:00Z. -/
def defaultStart : Instant := Instant.ofCivil 2024 1 1 0 0 0 0

/-- An instant as JSON: its RFC 3339 text, or `null` for the zero instant. -/
def instantJson (t : Instant) : Json := if t.isZero then .null else .string t.rfc3339

/-- A duration given in nanoseconds under `ns` or in milliseconds under `ms`; nanoseconds win
when given. -/
def duration (j : Json) (ns ms : String) : Int :=
  match Request.int? j ns with
  | some n => n
  | none => Duration.ofMillis (Request.int j ms)

/-- A positive value, or the default in its place. -/
def positiveOr (d fallback : Int) : Int := if d ≤ 0 then fallback else d

/-- The texts of a list field. -/
def textList (j : Json) (key : String) : List String :=
  match j.field? key with
  | some (.array items) => items.filterMap fun
    | .string s => some s
    | _ => none
  | _ => []

/-- The publisher a name chooses. -/
def publisherMode : String → PublisherMode
  | "error" => .failing
  | "none" => .absent
  | _ => .accepting

/-- The mailer a name chooses. -/
def mailerMode : String → MailerMode
  | "error" => .failing
  | "panic" => .crashing
  | "none" => .absent
  | _ => .accepting

/-- Whether a write queue of `capacity` tasks is more than one allocation may hold: a task takes
24 bytes, and the queue may take 2^48 bytes less a header of 96. -/
def queueTooLarge (capacity : Int) : Bool := 24 * capacity > 281474976710656 - 96

/-- A fresh hub as a configuration describes it; an unreadable start time fails the setup, and a
write queue too large to allocate breaks it down. -/
def setup (config : Json) : Except Failure Hub := do
  let start ← match Request.text config "start" with
    | "" => pure defaultStart
    | s => match Instant.parse s with
      | .ok t => pure t
      | .error e => throw (.setup (TimeError.message s e))
  let pickup := (config.field? "pickup").getD .null
  let available := Request.text config "availableStatus"
  let subject := Request.text pickup "mailSubject"
  let settings : Settings :=
    { availableStatus := if available.isEmpty then "AVAILABLE" else available
      root := Layout.root (Request.text config "root")
      completer := Request.flag config "completer" true
      robotsRepo := Request.flag config "robotsRepo" true
      containersRepo := Request.flag config "containersRepo" true
      publisher := publisherMode (Request.text config "publisher")
      qos := (Request.number? config "qos").getD 1
      mailer := mailerMode (Request.text config "mailer")
      mailFailFor := textList config "mailFailFor"
      mailPanicFor := textList config "mailPanicFor"
      codeTtl := positiveOr (duration pickup "codeTtlNs" "codeTtlMs") 600000000000
      resendWindow := positiveOr (duration pickup "resendWindowNs" "resendWindowMs") 120000000000
      resendLimit := positiveOr (Request.int pickup "resendLimit") 3
      mailSubject := if subject.isEmpty then "Your pickup code" else subject
      mqttReady := Request.flag config "mqttReady" true }
  let timeout := positiveOr (duration config "heartbeatTimeoutNs" "heartbeatTimeoutMs") 30000000000
  let capacity := positiveOr (Request.int config "bufferSize") 5000
  if queueTooLarge capacity then throw (.crash "makechan: size out of range")
  pure (Hub.fresh settings start timeout capacity.toNat (textList config "codes"))

/-- A look-up as JSON: `found`, and the value under `key` when there is one. -/
def found (key : String) : Option Json → Json
  | some v => .object [("found", .bool true), (key, v)]
  | none => .object [("found", .bool false)]

/-- An error answer of a step. -/
def errorJson (kind message : String) : Json :=
  .object [("error", .string kind), ("message", .string message)]

/-- A store answer: the value, or the refused query. -/
def fromStore (r : Except StoreError Json) : Json :=
  match r with
  | .ok j => j
  | .error e => errorJson "store" e.message

/-- Changes the store, answering as `answer` says. -/
def changeStore {α : Type} (h : Hub) (r : Except StoreError (α × Store)) (answer : α → Json) :
    Json × Hub :=
  match r with
  | .ok (a, s) => (answer a, { h with store := s })
  | .error e => (errorJson "store" e.message, h)

/-- The bytes of a routed payload: `payloadB64` decoded, or the text of `payload`. -/
def payloadOf (step : Json) : Except Failure (List UInt8) :=
  match Request.text? step "payloadB64" with
  | some t => match Base64.decode t with
    | .ok bs => .ok bs
    | .error n => .error (.badInput ("illegal base64 data at input byte " ++ toString n))
  | none => .ok (Request.text step "payload").toUTF8.toList

/-- The command a `publish` step names. -/
def commandOf? (step : Json) : Option Command :=
  let robot := Request.text step "robot"
  let container := Request.text step "containerCode"
  let order := Request.text step "orderCode"
  let trip := Request.text step "tripCode"
  match Request.text step "cmd" with
  | "move" => some (.move robot trip (Request.text step "destination"))
  | "load" => some (.loadContainer robot container order trip)
  | "open" => some (.openContainer robot container order trip)
  | "qr" => some (.invalidateQr robot trip)
  | _ => none

/-- Inserts a code row as a `otp_insert` step describes it. -/
def insertCode (h : Hub) (step : Json) : Json × Hub :=
  let created := h.now.add (duration step "createdOffsetNs" "createdOffsetMs")
  let expires := created.add (duration step "ttlNs" "ttlMs")
  let verified := Request.flag step "verified" false
  let row : CodeRow :=
    { orderCode := Request.text step "orderCode", tripCode := Request.text step "tripCode",
      code := Request.text step "code", email := Request.text step "email",
      createdAt := created.toStored, expiresAt := expires.toStored, verified,
      verifiedAt := if verified then some created.toStored else none }
  changeStore h ((fun s => ((), s)) <$> h.store.insertCode row) fun _ => .object []

/-- Publishes the command a `publish` step names. -/
def publishStep (h : Hub) (step : Json) : Except Failure Json × Hub :=
  if h.settings.publisher == .absent then (.error (.badInput "no publisher"), h)
  else
    match commandOf? step with
    | none => (.error (.badInput ("unknown cmd " ++ Request.text step "cmd")), h)
    | some c =>
      let (h, ok) := h.publish c
      if ok then (.ok (.object []), h)
      else (.ok (errorJson "publish" ("publish " ++ c.topic h.settings.root ++
        ": broker unavailable")), h)

/-- An outcome as a step answer. -/
def outcomeJson (o : Outcome) : Json := .object [("status", .string o.name)]

/-- Runs one step on the hub. -/
def runStep (h : Hub) (step : Json) : Except Failure Json × Hub :=
  let text := Request.text step
  let robot := text "robot"
  match text "op" with
  | "advance" =>
    let h := { h with now := h.now.add (duration step "ns" "ms") }
    (.ok (.object [("now", instantJson h.now)]), h)
  | "now" => (.ok (.object [("now", instantJson h.now)]), h)
  | "route" =>
    match payloadOf step with
    | .error f => (.error f, h)
    | .ok bytes =>
      let ((kind, result), h) := h.route (Utf8.encode (text "topic")) bytes
      (.ok (.object [("kind", .string kind), ("result", .string result)]), h)
  | "kinds" => (.ok (.object [("value", .array (Kind.matchOrder.map (.string ·.name)))]), h)
  | "get" =>
    match Reading.ofName? (text "field") with
    | none => (.error (.badInput ("unknown field " ++ text "field")), h)
    | some r =>
      let (v, h) := h.reading? robot r
      (.ok (found "value" v), h)
  | "get_container" =>
    let (v, h) := h.container? robot (text "containerCode")
    (.ok (found "value" (v.map ContainerState.toJson)), h)
  | "is_online" => (.ok (.object [("value", .bool (h.isOnline robot))]), h)
  | "is_free" =>
    let (b, h) := h.isFree robot
    (.ok (.object [("value", .bool b)]), h)
  | "snapshot" => (.ok (.object [("value", .object (h.cache.snapshot robot))]), h)
  | "mark_offline" => (.ok (.object []), h.markOffline robot)
  | "mark_all_offline" =>
    let (n, h) := h.markAllOffline
    (.ok (.object [("count", Json.ofNat n)]), h)
  | "sweep" =>
    let (evicted, h) := h.sweep
    (.ok (.object [("evicted", .array (evicted.map .string))]), h)
  | "last_seen" =>
    let seen := h.tracker.lastSeen? robot
    (.ok (.object [("found", .bool seen.isSome), ("time", Json.ofOption instantJson seen)]), h)
  | "tracker_len" => (.ok (.object [("value", Json.ofNat h.tracker.size)]), h)
  | "flush" => (.ok (.object []), h.flush)
  | "metrics" => (.ok h.counters.toJson, h)
  | "db_robots" =>
    (.ok (fromStore ((fun rows => .object [("rows", .array (rows.map RobotRow.toJson))]) <$>
      h.store.listRobots)), h)
  | "db_robot" =>
    (.ok (fromStore ((fun r => found "row" (r.map RobotRow.toJson)) <$>
      h.store.findRobot robot)), h)
  | "db_container" =>
    (.ok (fromStore ((fun r => found "row" (r.map ContainerRow.toJson)) <$>
      h.store.findContainer robot (text "containerCode"))), h)
  | "save_trip" =>
    let (j, h) := changeStore h (h.store.saveTrip (text "tripCode") (text "robotCode")
      (text "containerCode") (text "status")) fun id => .object [("id", Json.ofNat id)]
    (.ok j, h)
  | "save_order" =>
    let (j, h) := changeStore h (h.store.saveOrder (text "orderCode") (Request.int step "tripId")
      (text "email") (text "status")) fun id => .object [("id", Json.ofNat id)]
    (.ok j, h)
  | "get_trip" =>
    (.ok (fromStore ((fun r => found "row" (r.map TripRow.toJson)) <$>
      h.store.findTrip (text "tripCode"))), h)
  | "get_order" =>
    (.ok (fromStore ((fun r => found "row" (r.map OrderRow.toJson)) <$>
      h.store.findOrder (text "orderCode"))), h)
  | "otp_insert" =>
    let (j, h) := insertCode h step
    (.ok j, h)
  | "otps" =>
    (.ok (fromStore ((fun rows => .object [("rows", .array (rows.map CodeRow.toJson))]) <$>
      h.store.listCodes)), h)
  | "send" =>
    let (o, h) := h.send (text "orderCode") (text "tripCode")
    (.ok (outcomeJson o), h)
  | "resend" =>
    let (o, h) := h.resend (text "orderCode") (text "tripCode")
    (.ok (outcomeJson o), h)
  | "verify" =>
    let (o, h) := h.verify (text "orderCode") (text "tripCode") (text "code")
    (.ok (outcomeJson o), h)
  | "complete" =>
    let (o, h) := h.complete (text "orderCode") (text "tripCode")
    (.ok (outcomeJson o), h)
  | "cleanup" =>
    match h.cleanup with
    | (.ok n, h) => (.ok (.object [("deleted", Json.ofNat n)]), h)
    | (.error m, h) => (.ok (errorJson "cleanup" m), h)
  | "publish" => publishStep h step
  | "http" =>
    let method := match text "method" with
      | "" => "GET"
      | m => m
    match h.serveHttp method ((Request.string? step "path").getD "/") with
    | .ok reply => (.ok reply.toJson, h)
    | .error m => (.error (.crash ("invalid NewRequest arguments; " ++ m)), h)
  | "close_store" =>
    (.ok (.object [("closed", .bool true)]), { h with store := { h.store with closed := true } })
  | other => (.error (.badInput ("unknown step op " ++ other)), h)

/-- A mail as JSON. -/
def Letter.toJson (l : Letter) : Json :=
  .object [("to", .string l.recipient), ("subject", .string l.subject), ("body", .string l.body)]

/-- A publication as JSON. -/
def Publication.toJson (p : Publication) : Json :=
  .object ([("topic", .string p.topic), ("qos", Json.ofInt p.qos), ("retain", .bool false),
    ("payload", .string p.payload)] ++ if p.failed then [("failed", .bool true)] else [])

/-- A step's answer with what went out during the step. -/
def withOutbox (answer : Json) (o : Outbox) : Json :=
  let extras :=
    (if o.letters.isEmpty then [] else [("mails", .array (o.letters.map Letter.toJson))]) ++
    (if o.publications.isEmpty then []
     else [("commands", .array (o.publications.map Publication.toJson))]) ++
    (if o.offline.isEmpty then []
     else [("offline", .array ((o.offline.mergeSort fun a b => a < b || a == b).map .string))])
  match answer with
  | .object members => .object (members ++ extras)
  | other => other

/-- Runs the steps in order, answering one result per step. -/
def runSteps (h : Hub) : List Json → List Json
  | [] => []
  | step :: rest =>
    match step with
    | .object _ =>
      let (r, h) := runStep h step
      let answer := match r with
        | .ok j => j
        | .error f => f.toJson
      let (o, h) := h.takeOutbox
      withOutbox answer o :: runSteps h rest
    | _ => (Failure.badInput "step is not an object").toJson :: runSteps h rest

/-- The answer to a `scenario` request. -/
def scenarioAnswer (req : Json) : Except Failure Json := do
  let h ← setup ((req.field? "config").getD .null)
  let steps := match req.field? "steps" with
    | some (.array items) => items
    | _ => []
  pure (.object [("results", .array (runSteps h steps))])

end DeliveryFleet.Console
