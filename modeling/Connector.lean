import Connector.Cli.EnvFile
import Connector.Cli.Filter
import Connector.Cli.Grammar
import Connector.Cli.Invocation
import Connector.Cli.Listing
import Connector.Cli.Program
import Connector.Config.Codec
import Connector.Config.Document
import Connector.Config.FileTree
import Connector.Config.Loading
import Connector.Config.Manifest
import Connector.Config.Retry
import Connector.Config.Validation
import Connector.DataPlane.Basic
import Connector.DataPlane.Codec
import Connector.DataPlane.Flow
import Connector.DataPlane.Selection
import Connector.Decimal.Binary64
import Connector.Decimal.Shortest
import Connector.Event.Basic
import Connector.Event.Bus
import Connector.Explained
import Connector.Http.Dispatch
import Connector.Http.Exchange
import Connector.Http.Flow
import Connector.Http.Status
import Connector.Json.Decode
import Connector.Json.Reader
import Connector.Json.Value
import Connector.Json.Writer
import Connector.Main
import Connector.Policy.Basic
import Connector.Policy.Codec
import Connector.Policy.Evaluation
import Connector.Proofs.Site.Access
import Connector.Proofs.Store.Claiming
import Connector.Proofs.Store.Copy
import Connector.Proofs.Store.Lending
import Connector.Proofs.Store.Operation
import Connector.Proofs.Transfer.Move
import Connector.Proofs.Transfer.Passage
import Connector.Proofs.Transfer.Claimability
import Connector.Proofs.Transfer.Signal
import Connector.Proofs.Worker.Calls
import Connector.Proofs.Worker.Course
import Connector.Proofs.Worker.Ending
import Connector.Proofs.Worker.Outcome
import Connector.Proofs.Worker.Progress
import Connector.Proofs.World.Basic
import Connector.Proofs.World.Jobs
import Connector.Proofs.World.Ledger
import Connector.Proofs.World.Records
import Connector.Rehearsal.Cast
import Connector.Rehearsal.Operation
import Connector.Rehearsal.Stage
import Connector.Rehearsal.Tasks
import Connector.Site.Basic
import Connector.Site.Note
import Connector.Site.Opening
import Connector.Site.Registry
import Connector.Site.Service
import Connector.Site.Stores
import Connector.Sql.Connection
import Connector.Sql.DataPlaneTable
import Connector.Sql.Expression
import Connector.Sql.Schema
import Connector.Sql.Session
import Connector.Sql.Statement
import Connector.Sql.TransferTable
import Connector.Sql.Value
import Connector.Store.Counted
import Connector.Store.DataPlanes
import Connector.Store.Fault
import Connector.Store.Transfers
import Connector.Table
import Connector.Text.Blank
import Connector.Text.Lowercase
import Connector.Text.Quoted
import Connector.Time.Calendar
import Connector.Time.Instant
import Connector.Time.Span
import Connector.Time.SpanText
import Connector.Transfer.Basic
import Connector.Transfer.Codec
import Connector.Transfer.Id
import Connector.Transfer.Message
import Connector.Transfer.Refusal
import Connector.Transfer.Request
import Connector.Transfer.Signal
import Connector.Transfer.State
import Connector.Url.Basic
import Connector.Url.Encoding
import Connector.Url.Host
import Connector.Url.Parser
import Connector.Url.Punycode
import Connector.Worker.Attempt
import Connector.Worker.Cycle
import Connector.Yaml.Cursor
import Connector.Yaml.Document
import Connector.Yaml.Names
import Connector.Yaml.Node
import Connector.Yaml.Plain
import Connector.Yaml.Printer
import Connector.Yaml.Scalar
import Connector.Yaml.Shape
import Connector.Yaml.Tag
import Connector.Yaml.Token
import Connector.Proofs.World.Cancellation
import Connector.Proofs.World.PolicyGate
import Connector.Proofs.World.Publication
import Connector.Proofs.World.Replay
import Connector.Proofs.World.Exclusive
import Connector.Proofs.World.Coherence
import Connector.Proofs.World.Claimability
import Connector.Proofs.World.Backoff
import Connector.Proofs.World.Access
import Connector.Proofs.World.History
import Connector.Proofs.Worker.Report
import Connector.Proofs.World.Earning
import Connector.Proofs.World.Steady
import Connector.Proofs.World.Once
import Connector.Proofs.World.Reason
import Connector.Proofs.World.RetryBudget
import Connector.Proofs.World.Undisturbed
import Connector.Proofs.Sql.Columns
import Connector.Proofs.Sql.Simulation
import Connector.Proofs.Store.Leases
import Connector.Proofs.Site.Registry
import Connector.Proofs.Registry.Roster
import Connector.Proofs.Registry.History
import Connector.Proofs.Registry.Eviction
import Connector.Proofs.Config.Document
import Connector.Proofs.Config.Validation
import Connector.Proofs.Site.Opening
import Connector.Proofs.Rehearsal.Tasks
import Connector.Proofs.Rehearsal.Starting
import Connector.Proofs.Site.Sparing
import Connector.Proofs.Registry.Presence
import Connector.Proofs.Rehearsal.Sparing
import Connector.Proofs.Rehearsal.Playing
import Connector.Proofs.Rehearsal.Vouching
import Connector.Proofs.Rehearsal.Vigil
import Connector.Proofs.Policy.Verdict
import Connector.Proofs.Policy.Attributes
import Connector.Proofs.World.Clock
import Connector.Proofs.World.Traceless
import Connector.Proofs.World.Turnover
import Connector.Proofs.Transfer.Redelivery
import Connector.Proofs.Worker.Urgency
import Connector.Proofs.DataPlane.Selection
import Connector.Proofs.Policy.RoundTrip
import Connector.Proofs.Registry.Living
import Connector.Proofs.DataPlane.Document
import Connector.Proofs.Sql.DataPlanes
import Connector.Proofs.Sql.Heartbeats
import Connector.Proofs.Config.Delay
import Connector.Proofs.Http.Handle
import Connector.Proofs.Policy.Numbers
import Connector.Proofs.Event.Audience
import Connector.Proofs.World.Batch
