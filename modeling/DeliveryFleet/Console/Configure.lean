import DeliveryFleet.Options.Fleet
import DeliveryFleet.Console.Failure
import DeliveryFleet.Console.Request
import DeliveryFleet.Pickup.Code

/-!
# Checking configuration from the console

An `options` request names a group and gives values over its defaults (`Console.optionsAnswer`).
A single group answers the list of its complaints; `fleet` answers whether the whole
configuration is valid; `mqtt_client` answers the client settings drawn from the MQTT group and
why its broker URL is unusable, if it is. Values of the wrong kind fail the request with the
mismatch.
-/

namespace DeliveryFleet.Console

open Options

/-- Reads a group's values over its defaults. -/
def readGroup (fields : List (Field σ)) (qualified : String) (init : σ) (values : Json) :
    Except Failure σ :=
  match Record.read fields qualified init values with
  | .ok r => .ok r
  | .error m => .error (.badInput m.message)

/-- The complaints of a group as an answer. -/
def complaints (errs : List String) : Json := .object [("errors", .array (errs.map .string))]

/-- The failure of validating an absent group. -/
def Failure.absentGroup : Failure :=
  .crash "runtime error: invalid memory address or nil pointer dereference"

/-- The answer to an `options` request. -/
def optionsAnswer (req : Json) : Except Failure Json :=
  let values := (req.field? "values").getD .null
  match Request.text req "group" with
  | "http" =>
    (complaints ∘ Http.validate) <$> readGroup Http.fields "options.HttpOptions" {} values
  | "mqtt" =>
    (complaints ∘ Mqtt.validate) <$> readGroup Mqtt.fields "options.MqttOptions" {} values
  | "store" =>
    (complaints ∘ Store.validate) <$> readGroup Store.fields "options.StoreOptions" {} values
  | "s3" =>
    (complaints ∘ ObjectStore.validate) <$>
      readGroup ObjectStore.fields "options.S3Options" {} values
  | "telemetry" =>
    (complaints ∘ Telemetry.validate) <$>
      readGroup Telemetry.fields "options.TelemetryOptions" {} values
  | "pickup" =>
    (complaints ∘ Pickup.validate) <$> readGroup Pickup.fields "options.PickupOptions" {} values
  | "smtp" =>
    (complaints ∘ Smtp.validate) <$> readGroup Smtp.fields "options.SmtpOptions" {} values
  | "log" => (complaints ∘ Logging.validate) <$> readGroup Logging.fields "log.Options" {} values
  | "fleet" => do
    let o ← readGroup Fleet.fields "options.FleetOptions" {} values
    match o.validate with
    | .valid => pure (.object [("ok", .bool true)])
    | .invalid m => pure (.object [("error", .string "validation"), ("message", .string m)])
    | .missingGroup => throw Failure.absentGroup
  | "mqtt_client" => do
    let o ← readGroup Mqtt.fields "options.MqttOptions" {} values
    let c := o.clientConfig
    pure (.object ([("brokerURL", .string c.brokerUrl),
      ("keepAlive", Json.ofNat c.keepAliveSeconds),
      ("workers", Json.ofInt c.workers), ("sessionExpiry", Json.ofInt c.sessionExpiry),
      ("cleanStart", .bool c.cleanStart), ("connectTimeoutNs", Json.ofInt c.connectTimeout)] ++
      (c.check.map fun e => ("validateError", Json.string e)).toList))
  | other => .error (.badInput ("unknown group " ++ other))

/-- The answer to a `generate_code` request: the shape of a drawn code. -/
def codeAnswer (draw : Nat) : Json :=
  let c := Code.ofDraw draw
  .object [("length", Json.ofNat c.length), ("digits", .bool (c.all Char.isDigit))]

end DeliveryFleet.Console
