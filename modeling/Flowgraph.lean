import Flowgraph.Action.Http
import Flowgraph.Action.MassEmail
import Flowgraph.Action.Messaging
import Flowgraph.Action.Node
import Flowgraph.Action.Step
import Flowgraph.Action.Transform
import Flowgraph.Automation.Definition
import Flowgraph.Automation.Validation
import Flowgraph.CommandLine.Arguments
import Flowgraph.CommandLine.Help
import Flowgraph.CommandLine.Service
import Flowgraph.CommandLine.Session
import Flowgraph.Data.Comparison
import Flowgraph.Data.Path
import Flowgraph.Data.Template
import Flowgraph.Decode.Decoder
import Flowgraph.Decode.Fault
import Flowgraph.Decode.Record
import Flowgraph.Effect.Capability
import Flowgraph.Effect.Message
import Flowgraph.Effect.Rehearsal
import Flowgraph.Engine.Continuation
import Flowgraph.Engine.Deployment
import Flowgraph.Engine.Execution
import Flowgraph.Engine.Fault
import Flowgraph.Engine.Memory
import Flowgraph.Engine.Walk
import Flowgraph.Expression.Basic
import Flowgraph.Expression.Evaluate
import Flowgraph.Expression.Function
import Flowgraph.Expression.Grammar
import Flowgraph.Http.Host
import Flowgraph.Http.HostName
import Flowgraph.Http.NameTable
import Flowgraph.Http.Transport
import Flowgraph.Http.Url
import Flowgraph.Identity.Uuid
import Flowgraph.Json.Basic
import Flowgraph.Json.Reader
import Flowgraph.Json.Text
import Flowgraph.Main
import Flowgraph.Node.Basic
import Flowgraph.Node.Condition
import Flowgraph.Node.Json
import Flowgraph.Node.Trigger
import Flowgraph.Number.Binary64
import Flowgraph.Number.Literal
import Flowgraph.Number.Shortest
import Flowgraph.Pattern.Basic
import Flowgraph.Pattern.CharSet
import Flowgraph.Pattern.Layout
import Flowgraph.Pattern.Property
import Flowgraph.Pattern.Reader
import Flowgraph.Pattern.Shape
import Flowgraph.Proofs.Action.Accounting
import Flowgraph.Proofs.Action.Bag
import Flowgraph.Proofs.Action.Coupling
import Flowgraph.Proofs.Action.Delay
import Flowgraph.Proofs.Action.Entries
import Flowgraph.Proofs.Action.Flow
import Flowgraph.Proofs.Action.Law
import Flowgraph.Proofs.Action.MassEmail
import Flowgraph.Proofs.Action.Orderly
import Flowgraph.Proofs.Action.Transform
import Flowgraph.Proofs.Automation.Cycle
import Flowgraph.Proofs.Automation.Order
import Flowgraph.Proofs.Automation.Sorting
import Flowgraph.Proofs.CommandLine.FastForward
import Flowgraph.Proofs.Data.Comparison
import Flowgraph.Proofs.Data.DeepResolution
import Flowgraph.Proofs.Data.Path
import Flowgraph.Proofs.Data.Resolution
import Flowgraph.Proofs.Data.Template
import Flowgraph.Proofs.Decode.Record
import Flowgraph.Proofs.Decode.Result
import Flowgraph.Proofs.Effect.Act
import Flowgraph.Proofs.Engine.Abreast
import Flowgraph.Proofs.Engine.Alongside
import Flowgraph.Proofs.Engine.Captured
import Flowgraph.Proofs.Engine.Chronicle
import Flowgraph.Proofs.Engine.Coherence
import Flowgraph.Proofs.Engine.Completion
import Flowgraph.Proofs.Engine.Continuation
import Flowgraph.Proofs.Engine.Dangling
import Flowgraph.Proofs.Engine.Delayed
import Flowgraph.Proofs.Engine.Delivery
import Flowgraph.Proofs.Engine.Descent
import Flowgraph.Proofs.Engine.Execute
import Flowgraph.Proofs.Engine.FanOut
import Flowgraph.Proofs.Engine.History
import Flowgraph.Proofs.Engine.Impartial
import Flowgraph.Proofs.Engine.Integrity
import Flowgraph.Proofs.Engine.Keeping
import Flowgraph.Proofs.Engine.Lineage
import Flowgraph.Proofs.Engine.Memory
import Flowgraph.Proofs.Engine.Notes
import Flowgraph.Proofs.Engine.Output
import Flowgraph.Proofs.Engine.Parallel
import Flowgraph.Proofs.Engine.Pauses
import Flowgraph.Proofs.Engine.Redelivery
import Flowgraph.Proofs.Engine.Rejoined
import Flowgraph.Proofs.Engine.Report
import Flowgraph.Proofs.Engine.Resume
import Flowgraph.Proofs.Engine.Scheduling
import Flowgraph.Proofs.Engine.Stranding
import Flowgraph.Proofs.Engine.Trace
import Flowgraph.Proofs.Engine.Transcript
import Flowgraph.Proofs.Engine.Underway
import Flowgraph.Proofs.Engine.Walk
import Flowgraph.Proofs.Expression.Access
import Flowgraph.Proofs.Expression.Completeness
import Flowgraph.Proofs.Expression.Derivation
import Flowgraph.Proofs.Expression.Limits
import Flowgraph.Proofs.Expression.Lookahead
import Flowgraph.Proofs.Expression.Orderly
import Flowgraph.Proofs.Expression.Printing
import Flowgraph.Proofs.Expression.Scope
import Flowgraph.Proofs.Expression.Soundness
import Flowgraph.Proofs.Expression.Spacing
import Flowgraph.Proofs.Expression.Tally
import Flowgraph.Proofs.Expression.Token
import Flowgraph.Proofs.Identity.Uuid
import Flowgraph.Proofs.Json.Fields
import Flowgraph.Proofs.Json.Orderly
import Flowgraph.Proofs.Node.Codec
import Flowgraph.Proofs.Node.Decoded
import Flowgraph.Proofs.Number.Conversion
import Flowgraph.Proofs.Number.Nearest
import Flowgraph.Proofs.Queue.Agreement
import Flowgraph.Proofs.Queue.Backoff
import Flowgraph.Proofs.Queue.Conservation
import Flowgraph.Proofs.Queue.Deliveries
import Flowgraph.Proofs.Queue.Draining
import Flowgraph.Proofs.Queue.Exclusion
import Flowgraph.Proofs.Queue.Finality
import Flowgraph.Proofs.Queue.Memory
import Flowgraph.Proofs.Store.Agreement
import Flowgraph.Proofs.Store.Column
import Flowgraph.Proofs.Text.Blank
import Flowgraph.Proofs.Time.Calendar
import Flowgraph.Proofs.Time.Instant
import Flowgraph.Proofs.Time.Rfc3339
import Flowgraph.Queue.Job
import Flowgraph.Queue.Memory
import Flowgraph.Queue.Table
import Flowgraph.Queue.Worker
import Flowgraph.Run.Context
import Flowgraph.Run.Record
import Flowgraph.Store.Address
import Flowgraph.Store.Column
import Flowgraph.Store.Database
import Flowgraph.Store.Fault
import Flowgraph.Store.JobTable
import Flowgraph.Store.Row
import Flowgraph.Store.RunTable
import Flowgraph.Text.AgeTable
import Flowgraph.Text.Blank
import Flowgraph.Text.Case
import Flowgraph.Text.CaseTable
import Flowgraph.Text.CategoryTable
import Flowgraph.Text.CombiningTable
import Flowgraph.Text.Composed
import Flowgraph.Text.Direction
import Flowgraph.Text.Joining
import Flowgraph.Text.Pieces
import Flowgraph.Text.PrintTable
import Flowgraph.Text.Property
import Flowgraph.Text.PropertyTable
import Flowgraph.Text.Punycode
import Flowgraph.Text.Quoted
import Flowgraph.Text.Ranges
import Flowgraph.Text.ScriptTable
import Flowgraph.Text.Segment
import Flowgraph.Text.Utf8
import Flowgraph.Time.Calendar
import Flowgraph.Time.Instant
import Flowgraph.Time.Rfc3339
