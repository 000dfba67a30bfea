import ClusterOperator.Address
import ClusterOperator.Api.Call
import ClusterOperator.Api.Client
import ClusterOperator.Api.Failure
import ClusterOperator.Api.Server
import ClusterOperator.Api.Status
import ClusterOperator.Children.Labels
import ClusterOperator.Children.Wanted
import ClusterOperator.Controller.Basic
import ClusterOperator.Controller.Platform
import ClusterOperator.Controller.Rehearsal
import ClusterOperator.Convergence.Child
import ClusterOperator.Convergence.Drift
import ClusterOperator.Convergence.Error
import ClusterOperator.Definition.Entity
import ClusterOperator.Definition.Schema
import ClusterOperator.Dialogue
import ClusterOperator.Dict
import ClusterOperator.Entity.Basic
import ClusterOperator.Entity.Cluster
import ClusterOperator.Entity.Condition
import ClusterOperator.Entity.Query
import ClusterOperator.Entity.StatusChange
import ClusterOperator.Entity.Validation
import ClusterOperator.Health
import ClusterOperator.Inventory.Error
import ClusterOperator.Inventory.Lookup
import ClusterOperator.Inventory.Record
import ClusterOperator.Inventory.Wire
import ClusterOperator.Json.Basic
import ClusterOperator.Json.Magnitude
import ClusterOperator.Json.Member
import ClusterOperator.Json.Printer
import ClusterOperator.Json.Reader
import ClusterOperator.Json.Record
import ClusterOperator.Log.Filter
import ClusterOperator.Main
import ClusterOperator.Object.Deployment
import ClusterOperator.Object.Manifest
import ClusterOperator.Object.Metadata
import ClusterOperator.Object.Service
import ClusterOperator.Pass.Cluster
import ClusterOperator.Pass.Error
import ClusterOperator.Pass.Query
import ClusterOperator.Pass.Rehearsal
import ClusterOperator.Queue.Backoff
import ClusterOperator.Queue.Outcome
import ClusterOperator.Queue.Pool
import ClusterOperator.Queue.Rehearsal
import ClusterOperator.Queue.WaitingRoom
import ClusterOperator.Queue.WorkQueue
import ClusterOperator.Settings
import ClusterOperator.Startup
import ClusterOperator.Store.Error
import ClusterOperator.Store.Faulty
import ClusterOperator.Store.Memory
import ClusterOperator.Store.Request
import ClusterOperator.Supervision
import ClusterOperator.Text.Blank
import ClusterOperator.Text.Decimal
import ClusterOperator.Text.Hexadecimal
import ClusterOperator.Text.Hidden
import ClusterOperator.Text.Pattern
import ClusterOperator.Text.Quoted
import ClusterOperator.Text.Utf8
import ClusterOperator.Text.Word
import ClusterOperator.Time.Calendar
import ClusterOperator.Time.Duration
import ClusterOperator.Time.Instant
import ClusterOperator.Watch.Event
import ClusterOperator.Watch.Follower
import ClusterOperator.Yaml
import ClusterOperator.Proofs.Queue.Run
import ClusterOperator.Proofs.Queue.Standing
import ClusterOperator.Proofs.Queue.PoolRun
import ClusterOperator.Proofs.Queue.Serialization
import ClusterOperator.Proofs.Queue.Delivery
import ClusterOperator.Proofs.Watch.LatestSpec
import ClusterOperator.Proofs.Convergence.Children
import ClusterOperator.Proofs.Convergence.Pass
import ClusterOperator.Proofs.Watch.Incarnation
import ClusterOperator.Proofs.Queue.Rest
import ClusterOperator.Proofs.Convergence.Control
import ClusterOperator.Proofs.Convergence.Drift
import ClusterOperator.Proofs.Status.Conditions
import ClusterOperator.Proofs.Status.Reports
import ClusterOperator.Proofs.Convergence.Failure
import ClusterOperator.Proofs.Convergence.Replacement
import ClusterOperator.Proofs.Convergence.Silence
import ClusterOperator.Proofs.Pass.Account
import ClusterOperator.Proofs.Pass.Order
import ClusterOperator.Proofs.Pass.Stored
import ClusterOperator.Proofs.Pass.Outcome
import ClusterOperator.Proofs.Convergence.Completion
import ClusterOperator.Proofs.Pass.Generation
import ClusterOperator.Proofs.Convergence.Removal
import ClusterOperator.Proofs.Interleaving
import ClusterOperator.Proofs.Convergence.Locality
import ClusterOperator.Proofs.Pass.Independence
import ClusterOperator.Proofs.Queue.Deadlines
import ClusterOperator.Proofs.Queue.Calls
import ClusterOperator.Proofs.Queue.Wakefulness
import ClusterOperator.Proofs.Queue.Closing
import ClusterOperator.Proofs.Queue.Drain
import ClusterOperator.Proofs.Queue.Conclusion
import ClusterOperator.Proofs.Queue.Retries
import ClusterOperator.Proofs.Queue.Backoff
import ClusterOperator.Proofs.Pass.Published
import ClusterOperator.Proofs.Pass.Effect
import ClusterOperator.Proofs.Pass.LastResult
import ClusterOperator.Proofs.Pass.Phases
import ClusterOperator.Proofs.Status.Decoding
import ClusterOperator.Proofs.Status.Merge
import ClusterOperator.Proofs.Status.History
import ClusterOperator.Proofs.Pass.Objects
import ClusterOperator.Proofs.Pass.Patched
import ClusterOperator.Proofs.Queue.Crashes
import ClusterOperator.Proofs.Watch.Relisting
import ClusterOperator.Proofs.Pass.Departure
import ClusterOperator.Proofs.Pass.Contention
import ClusterOperator.Proofs.Text.Digits
import ClusterOperator.Proofs.Json.Reading
import ClusterOperator.Proofs.Time.Calendar
import ClusterOperator.Proofs.Time.Text
import ClusterOperator.Proofs.Inventory.Results
import ClusterOperator.Proofs.Entity.Codecs
import ClusterOperator.Proofs.Watch.Ownership
import ClusterOperator.Proofs.Pass.Delays
import ClusterOperator.Proofs.Queue.Strays
import ClusterOperator.Proofs.Pass.Endpoint
import ClusterOperator.Proofs.Status.Foreign
import ClusterOperator.Proofs.Pass.Foreign
import ClusterOperator.Proofs.Text.Utf8
import ClusterOperator.Proofs.Json.Holding
import ClusterOperator.Proofs.Inventory.Replies
import ClusterOperator.Proofs.Children.Selection
import ClusterOperator.Proofs.Watch.Generations
import ClusterOperator.Proofs.Convergence.Owners
import ClusterOperator.Proofs.Supervision
