import CordonWatch.Api.Request
import CordonWatch.Api.Status
import CordonWatch.Api.Write
import CordonWatch.Cluster.Caches
import CordonWatch.Cluster.Feeds
import CordonWatch.Cluster.Link
import CordonWatch.Cluster.Server
import CordonWatch.CommandLine.Arguments
import CordonWatch.CommandLine.Run
import CordonWatch.CommandLine.Setting
import CordonWatch.Controller.Basic
import CordonWatch.Controller.Following
import CordonWatch.Controller.Passing
import CordonWatch.Controller.Report
import CordonWatch.Controller.Timeline
import CordonWatch.Definition.Resource
import CordonWatch.Definition.Schema
import CordonWatch.Failure
import CordonWatch.Fault
import CordonWatch.Http.Basic
import CordonWatch.Http.Service
import CordonWatch.Http.Target
import CordonWatch.Json.Pointer
import CordonWatch.Json.Printer
import CordonWatch.Json.Reader
import CordonWatch.Json.Record
import CordonWatch.Json.Value
import CordonWatch.Json.Yaml
import CordonWatch.Lease.Basic
import CordonWatch.Lease.Elector
import CordonWatch.Lease.Server
import CordonWatch.Log
import CordonWatch.LogFilter
import CordonWatch.Main
import CordonWatch.Metrics
import CordonWatch.Number.Decimal
import CordonWatch.Number.Double
import CordonWatch.Number.Kept
import CordonWatch.Number.Power
import CordonWatch.Object.Autoscaler
import CordonWatch.Object.Budget
import CordonWatch.Object.Condition
import CordonWatch.Object.ContainerState
import CordonWatch.Object.ContainerStatus
import CordonWatch.Object.Kind
import CordonWatch.Object.Meta
import CordonWatch.Object.Node
import CordonWatch.Object.Pod
import CordonWatch.Object.PodStatus
import CordonWatch.Pass.Node
import CordonWatch.Pass.Policy
import CordonWatch.Program
import CordonWatch.Proofs.Cluster.Requests
import CordonWatch.Proofs.Controller.Backoff
import CordonWatch.Proofs.Controller.Forgetting
import CordonWatch.Proofs.Json.Codec
import CordonWatch.Proofs.Json.Kept
import CordonWatch.Proofs.Json.ReadBack
import CordonWatch.Proofs.Json.Scalars
import CordonWatch.Proofs.Lease.Conduct
import CordonWatch.Proofs.Lease.Election
import CordonWatch.Proofs.Lease.Handover
import CordonWatch.Proofs.Lease.Register
import CordonWatch.Proofs.Lease.Server
import CordonWatch.Proofs.Lease.Tenure
import CordonWatch.Proofs.Lease.Waiting
import CordonWatch.Proofs.Object.Conditions
import CordonWatch.Proofs.Object.Edits
import CordonWatch.Proofs.Object.ReadBack
import CordonWatch.Proofs.Object.RoundTrip
import CordonWatch.Proofs.Object.Untimed
import CordonWatch.Proofs.Pass.Basis
import CordonWatch.Proofs.Pass.Copying
import CordonWatch.Proofs.Pass.Counting
import CordonWatch.Proofs.Pass.Effect
import CordonWatch.Proofs.Pass.Enumeration
import CordonWatch.Proofs.Pass.Governing
import CordonWatch.Proofs.Pass.Handling
import CordonWatch.Proofs.Pass.Interleaving
import CordonWatch.Proofs.Pass.Isolation
import CordonWatch.Proofs.Pass.Lookup
import CordonWatch.Proofs.Pass.MarkedOnce
import CordonWatch.Proofs.Pass.Parallel
import CordonWatch.Proofs.Pass.Progress
import CordonWatch.Proofs.Pass.Retrying
import CordonWatch.Proofs.Pass.Selection
import CordonWatch.Proofs.Pass.Stamping
import CordonWatch.Proofs.Pass.Stopping
import CordonWatch.Proofs.Pass.View
import CordonWatch.Proofs.Pass.Writing
import CordonWatch.Proofs.Program
import CordonWatch.Proofs.Selector.Equality
import CordonWatch.Proofs.Selector.FirstDefect
import CordonWatch.Proofs.Selector.Grammar
import CordonWatch.Proofs.Selector.Language
import CordonWatch.Proofs.Selector.Meaning
import CordonWatch.Proofs.Split
import CordonWatch.Proofs.Steps
import CordonWatch.Proofs.Store.Dialogue
import CordonWatch.Proofs.Store.Held
import CordonWatch.Proofs.Store.Memory
import CordonWatch.Proofs.Store.Schedule
import CordonWatch.Proofs.Store.Shelf
import CordonWatch.Proofs.Table
import CordonWatch.Proofs.Text.Bytes
import CordonWatch.Proofs.Text.Digits
import CordonWatch.Proofs.Time.Calendar
import CordonWatch.Proofs.Time.Rfc3339
import CordonWatch.Proofs.Watch.Cordons
import CordonWatch.Proofs.Watch.Flags
import CordonWatch.Proofs.Watch.Placement
import CordonWatch.Proofs.Watch.PodIndex
import CordonWatch.Proofs.Watch.Readiness
import CordonWatch.Retry
import CordonWatch.Selector.Basic
import CordonWatch.Selector.Name
import CordonWatch.Store.Call
import CordonWatch.Store.Memory
import CordonWatch.Store.Shelf
import CordonWatch.Table
import CordonWatch.Text.Digits
import CordonWatch.Text.Hidden
import CordonWatch.Text.Letter
import CordonWatch.Text.Number
import CordonWatch.Text.Pattern
import CordonWatch.Text.Quoted
import CordonWatch.Time.Instant
import CordonWatch.Time.Rfc3339
import CordonWatch.Time.Span
import CordonWatch.Watch.Cache
import CordonWatch.Watch.CordonFilter
import CordonWatch.Watch.Event
import CordonWatch.Watch.Feed
import CordonWatch.Watch.Patience
import CordonWatch.Watch.PodIndex
import CordonWatch.Watch.Readiness
