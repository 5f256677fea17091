import DeliveryFleet.Text.Utf8
import DeliveryFleet.Text.Space
import DeliveryFleet.Text.Fold
import DeliveryFleet.Decimal.Shortest
import DeliveryFleet.Decimal.Read
import DeliveryFleet.Json.Value
import DeliveryFleet.Json.Read
import DeliveryFleet.Json.Record
import DeliveryFleet.Topic.Kind
import DeliveryFleet.Topic.Layout
import DeliveryFleet.Topic.Filter
import DeliveryFleet.Topic.Worker
import DeliveryFleet.Mail.Message
import DeliveryFleet.Text.Printable
import DeliveryFleet.Text.Quote
import DeliveryFleet.Options.Address
import DeliveryFleet.Net.IpAddr
import DeliveryFleet.Net.Url
import DeliveryFleet.Options.Groups
import DeliveryFleet.Options.Fleet
import DeliveryFleet.Clock.Instant
import DeliveryFleet.Clock.Parse
import DeliveryFleet.Liveness.Tracker
import DeliveryFleet.Liveness.StagedSweep
import DeliveryFleet.Telemetry.Reading
import DeliveryFleet.Telemetry.Cache
import DeliveryFleet.Telemetry.Message
import DeliveryFleet.Topic.Route
import DeliveryFleet.Telemetry.WriteQueue
import DeliveryFleet.Telemetry.MergeLoop
import DeliveryFleet.Hub.Counters
import DeliveryFleet.Hub.Command
import DeliveryFleet.Hub.Basic
import DeliveryFleet.Hub.Telemetry
import DeliveryFleet.Hub.Pickup
import DeliveryFleet.Hub.Route
import DeliveryFleet.Http.Path
import DeliveryFleet.Http.Request
import DeliveryFleet.Hub.Ops
import DeliveryFleet.Text.Base64
import DeliveryFleet.Console.Scenario
import DeliveryFleet.Store.Rows
import DeliveryFleet.Store.Basic
import DeliveryFleet.Console.Request
import DeliveryFleet.Console.Failure
import DeliveryFleet.Pickup.Code
import DeliveryFleet.Console.Configure
import DeliveryFleet.Console.Respond
import DeliveryFleet.Main
import DeliveryFleet.Proofs.Pickup.Attempt
import DeliveryFleet.Proofs.Store.CodeRows
import DeliveryFleet.Proofs.Pickup.Operations
import DeliveryFleet.Proofs.Pickup.Run
import DeliveryFleet.Proofs.Clock.Stored
import DeliveryFleet.Proofs.Pickup.Provenance
import DeliveryFleet.Proofs.Pickup.Supersession
import DeliveryFleet.Proofs.Console.Steps
import DeliveryFleet.Proofs.Console.Commands
import DeliveryFleet.Proofs.Pickup.Interleaving
import DeliveryFleet.Proofs.Pickup.ResendWindow
import DeliveryFleet.Proofs.Pickup.Trimming
import DeliveryFleet.Proofs.Liveness.Sightings
import DeliveryFleet.Proofs.Session.Frame
import DeliveryFleet.Proofs.Liveness.Online
import DeliveryFleet.Proofs.Telemetry.Latest
import DeliveryFleet.Proofs.Telemetry.Coalescing
import DeliveryFleet.Proofs.Telemetry.WriteThrough
import DeliveryFleet.Proofs.Session.DurableRows
import DeliveryFleet.Proofs.Liveness.Sweep
import DeliveryFleet.Proofs.Liveness.Goodbye
import DeliveryFleet.Proofs.Session.OnlineRows
import DeliveryFleet.Proofs.Pickup.Completion
import DeliveryFleet.Proofs.Liveness.Rechecks
import DeliveryFleet.Proofs.Text.Utf8
import DeliveryFleet.Proofs.Topic.Routing
import DeliveryFleet.Proofs.Topic.Subscriptions
import DeliveryFleet.Proofs.Session.Redelivery
import DeliveryFleet.Proofs.Decimal.Numbers
import DeliveryFleet.Proofs.Session.SoundReadings
import DeliveryFleet.Proofs.Pickup.Delivery
import DeliveryFleet.Proofs.Pickup.FreshCode
import DeliveryFleet.Proofs.Pickup.Closing
import DeliveryFleet.Proofs.Topic.Counting
import DeliveryFleet.Proofs.Session.KeyedPairs
import DeliveryFleet.Proofs.Session.VerifiedPickup
import DeliveryFleet.Proofs.Topic.Matching
import DeliveryFleet.Proofs.Mail.Layout
import DeliveryFleet.Proofs.Clock.RoundTrip
import DeliveryFleet.Proofs.Telemetry.MergeRuns
import DeliveryFleet.Proofs.Topic.Queues
import DeliveryFleet.Proofs.Liveness.Staleness
import DeliveryFleet.Proofs.Telemetry.Payloads
