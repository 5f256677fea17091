import DeliveryFleet.Clock.Instant
import DeliveryFleet.Liveness.Tracker
import DeliveryFleet.Telemetry.Cache
import DeliveryFleet.Telemetry.WriteQueue
import DeliveryFleet.Store.Basic
import DeliveryFleet.Hub.Counters
import DeliveryFleet.Hub.Command

/-!
# The hub

The hub (`Hub`) is everything the fleet holds: the clock, the liveness tracker, the telemetry
cache, the write-through queue, the durable store, the counters, the pickup codes still to be
handed out, and what went out during the current step (`Outbox`): mails, published commands and
robots that went offline. How it is set up is fixed by its `Settings`.

Mail and commands go through stand-ins whose behaviour the settings choose: a mailer that
accepts, fails or breaks down (`MailerMode`), and a publisher that accepts or fails
(`PublisherMode`); either may be absent.
-/

namespace DeliveryFleet

/-- How the mailer behaves. -/
inductive MailerMode where
  | accepting
  | failing
  | crashing
  | absent
  deriving Repr, BEq, Inhabited

/-- How the command publisher behaves. -/
inductive PublisherMode where
  | accepting
  | failing
  | absent
  deriving Repr, BEq, Inhabited

/-- How a hub is set up. -/
structure Settings where
  availableStatus : String := "AVAILABLE"
  root : String := "robot"
  completer : Bool := true
  robotsRepo : Bool := true
  containersRepo : Bool := true
  publisher : PublisherMode := .accepting
  qos : Int := 1
  mailer : MailerMode := .accepting
  mailFailFor : List String := []
  mailPanicFor : List String := []
  codeTtl : Int := 600000000000
  resendWindow : Int := 120000000000
  resendLimit : Int := 3
  mailSubject : String := "Your pickup code"
  mqttReady : Bool := true
  deriving Inhabited

/-- A mail the mailer accepted. -/
structure Letter where
  recipient : String
  subject : String
  body : String
  deriving Repr, BEq

/-- A command handed to the publisher, and whether publishing it failed. -/
structure Publication where
  topic : String
  qos : Int
  payload : String
  failed : Bool
  deriving Repr, BEq

/-- What went out during a step. -/
structure Outbox where
  letters : List Letter := []
  publications : List Publication := []
  offline : List String := []

/-- Everything the fleet holds. -/
structure Hub where
  settings : Settings
  now : Instant
  tracker : Tracker
  cache : Cache := {}
  queue : WriteQueue
  store : Store := {}
  counters : Counters := {}
  codes : List String := []
  outbox : Outbox := {}

namespace Hub

/-- A hub at an instant, with a tracker timeout and a queue capacity, holding nothing yet. -/
def fresh (settings : Settings) (now : Instant) (timeout : Int) (capacity : Nat)
    (codes : List String) : Hub :=
  { settings, now, tracker := Tracker.empty timeout, queue := ⟨capacity, []⟩, codes }

/-- Counts a routed message of a kind with its result. -/
def countMessage (h : Hub) (kind result : String) : Hub :=
  { h with
    counters := { h.counters with messages := h.counters.messages.bump (kind ++ "/" ++ result) } }

/-- Counts a write-through outcome. -/
def countWrite (h : Hub) (result : String) : Hub :=
  { h with counters := { h.counters with writeThrough := h.counters.writeThrough.bump result } }

/-- Counts a pickup outcome of an operation. -/
def countPickup (h : Hub) (op status : String) : Hub :=
  { h with counters := { h.counters with pickup := h.counters.pickup.bump (op ++ "/" ++ status) } }

/-- Queues a write, or counts it dropped when the queue is full. -/
def push (h : Hub) (t : WriteTask) : Hub :=
  let (q, taken) := h.queue.push t
  if taken then { h with queue := q } else h.countWrite "dropped"

/-- Schedules the write of a robot's row, if robot rows are kept. -/
def scheduleRobot (h : Hub) (robot : String) : Hub :=
  if h.settings.robotsRepo then h.push (.robot robot) else h

/-- Schedules the write of a container's row, if container rows are kept. -/
def scheduleContainer (h : Hub) (robot code : String) : Hub :=
  if h.settings.containersRepo then h.push (.container robot code) else h

/-- Records robots that went offline, and schedules the write of each one's row. -/
def wentOffline (h : Hub) (robots : List String) : Hub :=
  robots.foldl (fun h r =>
    ({ h with outbox := { h.outbox with offline := h.outbox.offline ++ [r] } }).scheduleRobot r) h

/-- Hands a command to the publisher; tells whether it was published. Without a publisher
nothing happens and nothing is published. -/
def publish (h : Hub) (c : Command) : Hub × Bool :=
  match h.settings.publisher with
  | .absent => (h, false)
  | mode =>
    let ok := mode != .failing
    let p : Publication := ⟨c.topic h.settings.root, h.settings.qos, c.payload, !ok⟩
    ({ h with outbox := { h.outbox with publications := h.outbox.publications ++ [p] } }, ok)

/-- The outcome of handing a mail to the mailer. -/
inductive MailResult where
  | accepted
  | refused
  | crashed
  deriving Repr, BEq

/-- Hands a mail to the mailer (which must be present). -/
def sendMail (h : Hub) (l : Letter) : MailResult × Hub :=
  let s := h.settings
  if s.mailer == .crashing || s.mailPanicFor.contains l.recipient then (.crashed, h)
  else if s.mailer == .failing || s.mailFailFor.contains l.recipient then (.refused, h)
  else (.accepted, { h with outbox := { h.outbox with letters := h.outbox.letters ++ [l] } })

/-- Empties the outbox, answering what it held. -/
def takeOutbox (h : Hub) : Outbox × Hub := (h.outbox, { h with outbox := {} })

end Hub

end DeliveryFleet
