import ObjectRelay.Relay.Dispatch
import ObjectRelay.Storage.Endpoint
import ObjectRelay.Proofs.Batch.Buffers
import ObjectRelay.Proofs.Batch.Feeding
import ObjectRelay.Proofs.Delimited.Positional
import ObjectRelay.Proofs.Delivery.Backoff
import ObjectRelay.Proofs.Gzip.Members
import ObjectRelay.Proofs.Object.CreatedObject
import ObjectRelay.Proofs.Object.Depth
import ObjectRelay.Proofs.Object.Elements
import ObjectRelay.Proofs.Object.Filter
import ObjectRelay.Proofs.Record.BrokenRead
import ObjectRelay.Proofs.Record.ConfigurationItem
import ObjectRelay.Proofs.Record.Values
import ObjectRelay.Proofs.Record.Wrapped
import ObjectRelay.Proofs.Relay.AuditLog
import ObjectRelay.Proofs.Relay.Cancellation
import ObjectRelay.Proofs.Relay.Copies
import ObjectRelay.Proofs.Relay.Destination
import ObjectRelay.Proofs.Relay.Requests
import ObjectRelay.Proofs.Relay.SideBySide
import ObjectRelay.Proofs.Rule.Course
import ObjectRelay.Proofs.Rule.Extensions
import ObjectRelay.Proofs.Rule.Idempotence
import ObjectRelay.Proofs.Rule.Validation
import ObjectRelay.Proofs.Run.Buffers
import ObjectRelay.Proofs.Run.Cancellation
import ObjectRelay.Proofs.Run.Delivery
import ObjectRelay.Proofs.Run.Joining
import ObjectRelay.Proofs.Run.Roundtrip
import ObjectRelay.Proofs.Settings.RuleDocument
import ObjectRelay.Proofs.Settings.Sizes
import ObjectRelay.Proofs.Storage.Copying
