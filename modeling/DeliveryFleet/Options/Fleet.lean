import DeliveryFleet.Options.Groups

/-!
# The whole configuration

The fleet's configuration holds one record per group (`Fleet`); a group set to `null` is absent.
`Fleet.validate` checks the groups in a fixed order (HTTP, MQTT, store, the object store only
when telemetry goes there, telemetry, pickup, mail, logging) and joins the complaints into one
message (`aggregate`): a single distinct complaint stands alone, several are listed in brackets,
separated by commas, each once.

An absent group that validation must read stops it (`FleetCheck.missingGroup`); the HTTP and
MQTT groups are simply skipped when absent.
-/

namespace DeliveryFleet.Options

/-- Every group of the configuration. -/
structure Fleet where
  http : Option Http := some {}
  mqtt : Option Mqtt := some {}
  store : Option Store := some {}
  objectStore : Option ObjectStore := some {}
  telemetry : Option Telemetry := some {}
  pickup : Option Pickup := some {}
  smtp : Option Smtp := some {}
  logging : Option Logging := some {}

/-- The members of the configuration document. -/
def Fleet.fields : List (Field Fleet) :=
  [ .nested "http" "options.HttpOptions" Http.fields Http.zero (·.http)
      ({ · with http := · }),
    .nested "mqtt" "options.MqttOptions" Mqtt.fields Mqtt.zero (·.mqtt)
      ({ · with mqtt := · }),
    .nested "store" "options.StoreOptions" Store.fields Store.zero (·.store)
      ({ · with store := · }),
    .nested "s3" "options.S3Options" ObjectStore.fields ObjectStore.zero (·.objectStore)
      ({ · with objectStore := · }),
    .nested "telemetry" "options.TelemetryOptions" Telemetry.fields Telemetry.zero
      (·.telemetry) ({ · with telemetry := · }),
    .nested "pickup" "options.PickupOptions" Pickup.fields Pickup.zero (·.pickup)
      ({ · with pickup := · }),
    .nested "smtp" "options.SmtpOptions" Smtp.fields Smtp.zero (·.smtp)
      ({ · with smtp := · }),
    .nested "log" "log.Options" Logging.fields Logging.zero (·.logging)
      ({ · with logging := · }) ]

/-- The outcome of checking the whole configuration. -/
inductive FleetCheck where
  | valid
  | invalid (message : String)
  /-- A group that validation must read is absent. -/
  | missingGroup
  deriving Repr, BEq

/-- Joins complaints into one message, each distinct complaint once. -/
def aggregate (errs : List String) : Option String :=
  let distinct := errs.foldl (fun acc e => if acc.contains e then acc else acc ++ [e]) []
  match errs, distinct with
  | [], _ => none
  | [e], _ => some e
  | _, [e] => some e
  | _, ds => some ("[" ++ ", ".intercalate ds ++ "]")

/-- The complaints of an optional group; `none` when validation must read an absent group. -/
def present? (g : Option α) (validate : α → List String) : Option (List String) :=
  g.map validate

/-- Checks the whole configuration. -/
def Fleet.validate (o : Fleet) : FleetCheck :=
  let httpErrs := (o.http.map Http.validate).getD []
  let mqttErrs := (o.mqtt.map Mqtt.validate).getD []
  match o.store with
  | none => .missingGroup
  | some store =>
    let s3Errs : Option (List String) :=
      if store.telemetryBackend == "s3" then present? o.objectStore ObjectStore.validate
      else some []
    match s3Errs, present? o.telemetry Telemetry.validate, present? o.pickup Pickup.validate,
        present? o.smtp Smtp.validate, present? o.logging Logging.validate with
    | some s3, some tel, some pick, some mail, some logs =>
      match aggregate (httpErrs ++ mqttErrs ++ store.validate ++ s3 ++ tel ++ pick ++ mail ++
          logs) with
      | none => .valid
      | some m => .invalid m
    | _, _, _, _, _ => .missingGroup

end DeliveryFleet.Options
