import DeliveryFleet.Json.Read
import DeliveryFleet.Json.Record
import DeliveryFleet.Text.Space
import DeliveryFleet.Topic.Kind
import DeliveryFleet.Telemetry.Reading

/-!
# Robot messages

A robot's message is a JSON object whose members depend on its kind. Decoding
(`Message.decode`) reads the payload into a `Draft`: a payload of blanks only leaves every member
unset; otherwise the payload must be one JSON document, and each member it names is stored into
the draft by the kind's fields (`Draft.fieldsOf`): names match exactly or up to case, unknown
names are skipped, the last of two equal names wins, and `null` leaves a member unset.

Validation (`Draft.toMessage?`) then checks what each kind requires and yields the `Message`
the fleet acts upon: a location needs both coordinates, a battery charge lies in `[0, 100]`, a
status is not empty, a container report names the container and its status, a trip has an id
and a progress in `[0, 100]`, a trip state names the trip and its status, and a warning has a code
or a text. Heartbeats, QR codes and forced moves are taken as they come.
-/

namespace DeliveryFleet

/-- The members a robot message may carry; each kind reads some of them. -/
structure Draft where
  lat : Option Float := none
  lon : Option Float := none
  roomCode : String := ""
  battery : Option Float := none
  status : String := ""
  containerCode : String := ""
  orderCode : String := ""
  tripCode : String := ""
  tripId : String := ""
  progress : Float := 0
  startPoint : String := ""
  endPoint : String := ""
  qrCode : String := ""
  reason : String := ""
  code : String := ""
  message : String := ""
  isAlive : Option Bool := none
  deriving Inhabited

/-- A validated message, as the fleet acts upon it. -/
inductive Message where
  | location (v : Location)
  | battery (charge : Float)
  | status (v : String)
  | container (v : ContainerState) (orderCode tripCode : String)
  | trip (v : TripState)
  | tripState (tripId status : String)
  | qrCode (v : QrCode)
  | forceMove (reason : String)
  | warning (v : Warning)
  | heartbeat (alive : Bool)
  deriving Inhabited

namespace Draft

/-- A text member of a draft. -/
def textField (name : String) (get : Draft → String) (set : Draft → String → Draft) :
    Field Draft :=
  Field.ofSlot name "string" get set Slot.text

/-- A number member that may be absent. -/
def numberField (name : String) (get : Draft → Option Float)
    (set : Draft → Option Float → Draft) : Field Draft :=
  Field.ofSlot name "float64" get set Slot.optFloat

/-- The members each kind reads. -/
def fieldsOf : Kind → List (Field Draft)
  | .location =>
    [numberField "lat" (·.lat) fun d v => { d with lat := v },
     numberField "lon" (·.lon) fun d v => { d with lon := v },
     textField "roomCode" (·.roomCode) fun d v => { d with roomCode := v }]
  | .battery => [numberField "battery" (·.battery) fun d v => { d with battery := v }]
  | .status => [textField "status" (·.status) fun d v => { d with status := v }]
  | .container =>
    [textField "containerCode" (·.containerCode) fun d v => { d with containerCode := v },
     textField "status" (·.status) fun d v => { d with status := v },
     textField "orderCode" (·.orderCode) fun d v => { d with orderCode := v },
     textField "tripCode" (·.tripCode) fun d v => { d with tripCode := v }]
  | .trip =>
    [textField "tripId" (·.tripId) fun d v => { d with tripId := v },
     Field.ofSlot "progress" "float64" (·.progress)
       (fun d v => { d with progress := v }) Slot.float,
     textField "status" (·.status) fun d v => { d with status := v },
     textField "startPoint" (·.startPoint) fun d v => { d with startPoint := v },
     textField "endPoint" (·.endPoint) fun d v => { d with endPoint := v }]
  | .tripState =>
    [textField "tripId" (·.tripId) fun d v => { d with tripId := v },
     textField "status" (·.status) fun d v => { d with status := v }]
  | .qrCode =>
    [textField "qrCode" (·.qrCode) fun d v => { d with qrCode := v },
     textField "status" (·.status) fun d v => { d with status := v }]
  | .forceMove => [textField "reason" (·.reason) fun d v => { d with reason := v }]
  | .warning =>
    [textField "code" (·.code) fun d v => { d with code := v },
     textField "message" (·.message) fun d v => { d with message := v }]
  | .heartbeat =>
    [Field.ofSlot "isAlive" "bool" (·.isAlive) (fun d v => { d with isAlive := v })
      Slot.optFlag]

/-- A number lies in `[0, 100]`. -/
def percent (x : Float) : Bool := !(x < 0 || x > 100)

/-- The message a draft of a kind stands for, if it passes the kind's checks. -/
def toMessage? (d : Draft) : Kind → Option Message
  | .location =>
    match d.lat, d.lon with
    | some lat, some lon => some (.location ⟨lat, lon, d.roomCode⟩)
    | _, _ => none
  | .battery =>
    match d.battery with
    | some b => if percent b then some (.battery b) else none
    | none => none
  | .status => if d.status.isEmpty then none else some (.status d.status)
  | .container =>
    if d.containerCode.isEmpty || d.status.isEmpty then none
    else some (.container ⟨d.containerCode, d.status⟩ d.orderCode d.tripCode)
  | .trip =>
    if d.tripId.isEmpty || !percent d.progress then none
    else some (.trip ⟨d.tripId, d.progress, d.status, d.startPoint, d.endPoint⟩)
  | .tripState =>
    if d.tripId.isEmpty || d.status.isEmpty then none else some (.tripState d.tripId d.status)
  | .qrCode => some (.qrCode ⟨d.qrCode, d.status⟩)
  | .forceMove => some (.forceMove d.reason)
  | .warning =>
    if d.code.isEmpty && d.message.isEmpty then none else some (.warning ⟨d.code, d.message⟩)
  | .heartbeat => some (.heartbeat (d.isAlive.getD true))

end Draft

/-- The draft a payload of a kind reads as, if it reads at all. -/
def Draft.read? (k : Kind) (payload : List UInt8) : Option Draft :=
  if Space.isBlank payload then some {}
  else
    match Json.read payload with
    | .error _ => none
    | .ok j =>
      match Record.read (Draft.fieldsOf k) "message" {} j with
      | .ok d => some d
      | .error _ => none

/-- The message a payload of a kind carries, or `none` when it is malformed. -/
def Message.decode (k : Kind) (payload : List UInt8) : Option Message :=
  (Draft.read? k payload).bind fun d => d.toMessage? k

end DeliveryFleet
