import DeliveryFleet.Json.Record
import DeliveryFleet.Options.Address
import DeliveryFleet.Net.Url

/-!
# Option groups

The service is configured in groups (HTTP server, MQTT client, store, object store, telemetry,
pickup codes, outgoing mail, logging). Each group is a record with its defaults, read from a
JSON object over those defaults (`Record.read`), and checked by its `validate`, which lists
every complaint in a fixed order. Durations are whole nanoseconds.
-/

namespace DeliveryFleet.Options

/-- A second, in nanoseconds. -/
def second : Int := 1000000000

/-! ### HTTP server -/

/-- Where the operations server listens. -/
structure Http where
  network : String := "tcp"
  addr : String := "0.0.0.0:8080"
  timeout : Int := 30 * second
  deriving Repr

/-- The HTTP group with every setting empty, zero or false. -/
def Http.zero : Http :=
  { network := "", addr := "", timeout := 0 }

/-- The fields of the HTTP group. -/
def Http.fields : List (Field Http) :=
  [ .ofSlot "network" "string" (·.network) ({ · with network := · }) Slot.text,
    .ofSlot "addr" "string" (·.addr) ({ · with addr := · }) Slot.text,
    .ofSlot "timeout" "time.Duration" (·.timeout) ({ · with timeout := · })
      Slot.int64 ]

/-- Complaints about the HTTP group. -/
def Http.validate (o : Http) : List String := (Address.check o.addr).toList

/-! ### MQTT client -/

/-- How the fleet connects to its broker. -/
structure Mqtt where
  broker : String := "tcp://localhost:1883"
  username : String := ""
  password : String := ""
  clientId : String := ""
  keepAlive : Int := 60 * second
  connectTimeout : Int := 5 * second
  sessionExpiry : Int := 0
  cleanStart : Bool := true
  qos : Int := 1
  workers : Int := 8
  insecureSkipVerify : Bool := false
  topicRoot : String := "robot"
  deriving Repr

/-- The MQTT group with every setting empty, zero or false. -/
def Mqtt.zero : Mqtt :=
  { broker := "", username := "", password := "", clientId := "", keepAlive := 0,
    connectTimeout := 0, sessionExpiry := 0, cleanStart := false, qos := 0, workers := 0,
    insecureSkipVerify := false, topicRoot := "" }

/-- The fields of the MQTT group. -/
def Mqtt.fields : List (Field Mqtt) :=
  [ .ofSlot "broker" "string" (·.broker) ({ · with broker := · }) Slot.text,
    .ofSlot "username" "string" (·.username) ({ · with username := · }) Slot.text,
    .ofSlot "password" "string" (·.password) ({ · with password := · }) Slot.text,
    .ofSlot "client-id" "string" (·.clientId) ({ · with clientId := · }) Slot.text,
    .ofSlot "keep-alive" "time.Duration" (·.keepAlive) ({ · with keepAlive := · })
      Slot.int64,
    .ofSlot "connect-timeout" "time.Duration" (·.connectTimeout)
      ({ · with connectTimeout := · }) Slot.int64,
    .ofSlot "session-expiry" "uint32" (·.sessionExpiry)
      ({ · with sessionExpiry := · }) Slot.uint32,
    .ofSlot "clean-start" "bool" (·.cleanStart) ({ · with cleanStart := · })
      Slot.flag,
    .ofSlot "qos" "int" (·.qos) ({ · with qos := · }) Slot.int64,
    .ofSlot "workers" "int" (·.workers) ({ · with workers := · }) Slot.int64,
    .ofSlot "insecure-skip-verify" "bool" (·.insecureSkipVerify)
      ({ · with insecureSkipVerify := · }) Slot.flag,
    .ofSlot "topic-root" "string" (·.topicRoot) ({ · with topicRoot := · })
      Slot.text ]

/-- The client's settings drawn from the MQTT group. -/
structure ClientConfig where
  brokerUrl : String
  keepAliveSeconds : Nat
  sessionExpiry : Int
  connectTimeout : Int
  cleanStart : Bool
  workers : Int
  deriving Repr

/-- The client settings: the keep-alive is whole seconds, cut toward zero, as a 16-bit word. -/
def Mqtt.clientConfig (o : Mqtt) : ClientConfig :=
  { brokerUrl := o.broker
    keepAliveSeconds := (o.keepAlive.tdiv second % 65536).toNat
    sessionExpiry := o.sessionExpiry
    connectTimeout := o.connectTimeout
    cleanStart := o.cleanStart
    workers := o.workers }

/-- Why a broker URL is unusable, if it is. -/
def ClientConfig.check (c : ClientConfig) : Option String :=
  if c.brokerUrl.isEmpty then some "broker url is required"
  else match Url.parseReference c.brokerUrl with
    | .error e => some e
    | .ok u =>
      if u.scheme.isEmpty || u.host.isEmpty then
        some "broker url must look like scheme://host:port"
      else none

/-- Complaints about the MQTT group. -/
def Mqtt.validate (o : Mqtt) : List String :=
  ((o.clientConfig.check).map ("--mqtt.broker: " ++ ·)).toList ++
  (if o.qos < 0 || o.qos > 2 then ["--mqtt.qos must be 0, 1 or 2"] else []) ++
  (if o.workers < 1 then ["--mqtt.workers must be positive"] else [])

/-! ### Store -/

/-- Where durable rows live. -/
structure Store where
  path : String := "./data/fleet.db"
  telemetryBackend : String := "sqlite"
  deriving Repr

/-- The store group with every setting empty, zero or false. -/
def Store.zero : Store :=
  { path := "", telemetryBackend := "" }

/-- The fields of the store group. -/
def Store.fields : List (Field Store) :=
  [ .ofSlot "path" "string" (·.path) ({ · with path := · }) Slot.text,
    .ofSlot "telemetry-backend" "string" (·.telemetryBackend)
      ({ · with telemetryBackend := · }) Slot.text ]

/-- Complaints about the store group. -/
def Store.validate (o : Store) : List String :=
  (if o.path.isEmpty then ["--store.path is required"] else []) ++
  (if o.telemetryBackend == "sqlite" || o.telemetryBackend == "s3" then []
   else ["--store.telemetry-backend must be \"sqlite\" or \"s3\""])

/-! ### Object store -/

/-- The object store that may hold telemetry rows. -/
structure ObjectStore where
  endpoint : String := "localhost:9000"
  accessKeyId : String := ""
  secretAccessKey : String := ""
  useSsl : Bool := false
  bucketName : String := "fleet-telemetry"
  region : String := "us-east-1"
  insecureSkipVerify : Bool := false
  deriving Repr

/-- The object store group with every setting empty, zero or false. -/
def ObjectStore.zero : ObjectStore :=
  { endpoint := "", accessKeyId := "", secretAccessKey := "", useSsl := false, bucketName := "",
    region := "", insecureSkipVerify := false }

/-- The fields of the object store group. -/
def ObjectStore.fields : List (Field ObjectStore) :=
  [ .ofSlot "endpoint" "string" (·.endpoint) ({ · with endpoint := · }) Slot.text,
    .ofSlot "access-key-id" "string" (·.accessKeyId) ({ · with accessKeyId := · })
      Slot.text,
    .ofSlot "secret-access-key" "string" (·.secretAccessKey)
      ({ · with secretAccessKey := · }) Slot.text,
    .ofSlot "use-ssl" "bool" (·.useSsl) ({ · with useSsl := · }) Slot.flag,
    .ofSlot "bucket-name" "string" (·.bucketName) ({ · with bucketName := · })
      Slot.text,
    .ofSlot "region" "string" (·.region) ({ · with region := · }) Slot.text,
    .ofSlot "insecure-skip-verify" "bool" (·.insecureSkipVerify)
      ({ · with insecureSkipVerify := · }) Slot.flag ]

/-- Complaints about the object store group. -/
def ObjectStore.validate (o : ObjectStore) : List String :=
  (if o.endpoint.isEmpty then ["--s3.endpoint is required"] else []) ++
  (if o.bucketName.isEmpty then ["--s3.bucket-name is required"] else [])

/-! ### Telemetry -/

/-- Liveness and write-through tuning. -/
structure Telemetry where
  heartbeatTimeout : Int := 30 * second
  sweepInterval : Int := second
  flushInterval : Int := second
  bufferSize : Int := 5000
  flushWorkers : Int := 8
  writeTimeout : Int := 5 * second
  drainTimeout : Int := 5 * second
  availableStatus : String := "AVAILABLE"
  deriving Repr

/-- The telemetry group with every setting empty, zero or false. -/
def Telemetry.zero : Telemetry :=
  { heartbeatTimeout := 0, sweepInterval := 0, flushInterval := 0, bufferSize := 0,
    flushWorkers := 0, writeTimeout := 0, drainTimeout := 0, availableStatus := "" }

/-- The fields of the telemetry group. -/
def Telemetry.fields : List (Field Telemetry) :=
  [ .ofSlot "heartbeat-timeout" "time.Duration" (·.heartbeatTimeout)
      ({ · with heartbeatTimeout := · }) Slot.int64,
    .ofSlot "sweep-interval" "time.Duration" (·.sweepInterval)
      ({ · with sweepInterval := · }) Slot.int64,
    .ofSlot "flush-interval" "time.Duration" (·.flushInterval)
      ({ · with flushInterval := · }) Slot.int64,
    .ofSlot "buffer-size" "int" (·.bufferSize) ({ · with bufferSize := · })
      Slot.int64,
    .ofSlot "flush-workers" "int" (·.flushWorkers)
      ({ · with flushWorkers := · }) Slot.int64,
    .ofSlot "write-timeout" "time.Duration" (·.writeTimeout)
      ({ · with writeTimeout := · }) Slot.int64,
    .ofSlot "drain-timeout" "time.Duration" (·.drainTimeout)
      ({ · with drainTimeout := · }) Slot.int64,
    .ofSlot "available-status" "string" (·.availableStatus)
      ({ · with availableStatus := · }) Slot.text ]

/-- Complaints about the telemetry group. -/
def Telemetry.validate (o : Telemetry) : List String :=
  (if o.heartbeatTimeout ≤ 0 then ["--telemetry.heartbeat-timeout must be positive"] else []) ++
  (if o.sweepInterval ≤ 0 then ["--telemetry.sweep-interval must be positive"] else []) ++
  (if o.flushInterval ≤ 0 then ["--telemetry.flush-interval must be positive"] else []) ++
  (if o.bufferSize < 1 || o.flushWorkers < 1 then
    ["--telemetry.buffer-size and --telemetry.flush-workers must be positive"] else [])

/-! ### Pickup codes -/

/-- Lifetimes and limits of pickup codes. -/
structure Pickup where
  codeTtl : Int := 600 * second
  resendWindow : Int := 120 * second
  resendLimit : Int := 3
  cleanupInterval : Int := 60 * second
  mailSubject : String := "Your pickup code"
  deriving Repr

/-- The pickup group with every setting empty, zero or false. -/
def Pickup.zero : Pickup :=
  { codeTtl := 0, resendWindow := 0, resendLimit := 0, cleanupInterval := 0,
    mailSubject := "" }

/-- The fields of the pickup group. -/
def Pickup.fields : List (Field Pickup) :=
  [ .ofSlot "code-ttl" "time.Duration" (·.codeTtl) ({ · with codeTtl := · })
      Slot.int64,
    .ofSlot "resend-window" "time.Duration" (·.resendWindow)
      ({ · with resendWindow := · }) Slot.int64,
    .ofSlot "resend-limit" "int" (·.resendLimit) ({ · with resendLimit := · })
      Slot.int64,
    .ofSlot "cleanup-interval" "time.Duration" (·.cleanupInterval)
      ({ · with cleanupInterval := · }) Slot.int64,
    .ofSlot "mail-subject" "string" (·.mailSubject) ({ · with mailSubject := · })
      Slot.text ]

/-- Complaints about the pickup group. -/
def Pickup.validate (o : Pickup) : List String :=
  (if o.codeTtl ≤ 0 || o.resendWindow ≤ 0 || o.cleanupInterval ≤ 0 then
    ["--pickup durations must be positive"] else []) ++
  (if o.resendLimit < 1 then ["--pickup.resend-limit must be at least 1"] else [])

/-! ### Outgoing mail -/

/-- The mail relay; an empty address turns mail off. -/
structure Smtp where
  addr : String := ""
  username : String := ""
  password : String := ""
  sender : String := "no-reply@fleet.local"
  timeout : Int := 10 * second
  deriving Repr

/-- The mail group with every setting empty, zero or false. -/
def Smtp.zero : Smtp :=
  { addr := "", username := "", password := "", sender := "", timeout := 0 }

/-- The fields of the mail group. -/
def Smtp.fields : List (Field Smtp) :=
  [ .ofSlot "addr" "string" (·.addr) ({ · with addr := · }) Slot.text,
    .ofSlot "username" "string" (·.username) ({ · with username := · }) Slot.text,
    .ofSlot "password" "string" (·.password) ({ · with password := · }) Slot.text,
    .ofSlot "from" "string" (·.sender) ({ · with sender := · }) Slot.text,
    .ofSlot "timeout" "time.Duration" (·.timeout) ({ · with timeout := · })
      Slot.int64 ]

/-- Complaints about the mail group. -/
def Smtp.validate (o : Smtp) : List String :=
  if o.addr.isEmpty then [] else (Address.check o.addr).toList

/-! ### Logging -/

/-- Log output settings; an unknown level is tolerated. -/
structure Logging where
  name : String := "fleet"
  level : String := "info"
  format : String := "console"
  enableColor : Bool := true
  disableCaller : Bool := false
  callerSkip : Int := 2
  outputPaths : List String := ["stdout"]
  deriving Repr

/-- The logging group with every setting empty, zero or false. -/
def Logging.zero : Logging :=
  { name := "", level := "", format := "", enableColor := false, disableCaller := false,
    callerSkip := 0, outputPaths := [] }

/-- The fields of the logging group. -/
def Logging.fields : List (Field Logging) :=
  [ .ofSlot "name" "string" (·.name) ({ · with name := · }) Slot.text,
    .ofSlot "level" "string" (·.level) ({ · with level := · }) Slot.text,
    .ofSlot "format" "string" (·.format) ({ · with format := · }) Slot.text,
    .ofSlot "enable-color" "bool" (·.enableColor) ({ · with enableColor := · })
      Slot.flag,
    .ofSlot "disable-caller" "bool" (·.disableCaller) ({ · with disableCaller := · })
      Slot.flag,
    .ofSlot "caller-skip" "int" (·.callerSkip) ({ · with callerSkip := · }) Slot.int64,
    .ofSlot "output-paths" "[]string" (·.outputPaths) ({ · with outputPaths := · })
      Slot.texts ]

/-- Complaints about the logging group. -/
def Logging.validate (o : Logging) : List String :=
  if o.format == "console" || o.format == "json" then []
  else ["--log.format must be 'console' or 'json', got " ++ Quote.quote o.format]

end DeliveryFleet.Options
