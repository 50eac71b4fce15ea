import Plugboard.Circuit.Breaker
import Plugboard.Circuit.Record
import Plugboard.Clock
import Plugboard.Data.Document
import Plugboard.Data.Duration
import Plugboard.Data.Float64
import Plugboard.Data.NumberText
import Plugboard.Data.Overlay
import Plugboard.Data.Parser
import Plugboard.Data.Printer
import Plugboard.Data.Reader
import Plugboard.Data.Shortest
import Plugboard.Data.Table
import Plugboard.Data.Value
import Plugboard.Declaration.Basic
import Plugboard.Declaration.Derive
import Plugboard.Declaration.Generics
import Plugboard.Declaration.Grammar.Bound
import Plugboard.Declaration.Grammar.Core
import Plugboard.Declaration.Grammar.Expression
import Plugboard.Declaration.Grammar.Path
import Plugboard.Declaration.Grammar.Pattern
import Plugboard.Declaration.Grammar.Rule
import Plugboard.Declaration.Grammar.Statement
import Plugboard.Declaration.Grammar.TypeRule
import Plugboard.Declaration.Grammar.Whole
import Plugboard.Declaration.Literal
import Plugboard.Declaration.Path
import Plugboard.Declaration.Token
import Plugboard.Declaration.TokenText
import Plugboard.Dispatch.Result
import Plugboard.Dispatch.Settings
import Plugboard.Engine.Command
import Plugboard.Engine.Dispatch
import Plugboard.Engine.Run
import Plugboard.Engine.State
import Plugboard.Engine.Worker
import Plugboard.Failure
import Plugboard.Handler
import Plugboard.LogEvent
import Plugboard.Logging.Builder
import Plugboard.Logging.Directive
import Plugboard.Logging.Filter
import Plugboard.Logging.Installed
import Plugboard.Pipeline.Basic
import Plugboard.Pipeline.TextPipe
import Plugboard.Point
import Plugboard.Queue.Call
import Plugboard.Queue.Options
import Plugboard.Queue.Timed
import Plugboard.Registry.Basic
import Plugboard.Registry.Entry
import Plugboard.Registry.Priority
import Plugboard.Registry.Report
import Plugboard.Session.Basic
import Plugboard.Session.PointCatalog
import Plugboard.Session.Script
import Plugboard.Settings.Environment
import Plugboard.Settings.FileTree
import Plugboard.Settings.Loading
import Plugboard.Settings.Profile
import Plugboard.Settings.Schema
import Plugboard.Settings.Validation
import Plugboard.Settings.VariableText
import Plugboard.Strategy
import Plugboard.Text.Alphanumeric
import Plugboard.Text.Blank
import Plugboard.Text.Bytes
import Plugboard.Text.FilePath
import Plugboard.Text.Inspected
import Plugboard.Text.Lowercase
import Plugboard.Text.Name
import Plugboard.Text.Parts
import Plugboard.Text.Pattern
import Plugboard.Text.Unprinted
import Plugboard.Toml.Parser
import Plugboard.Toml.Quoted
import Plugboard.Toml.Scalar
import Plugboard.Toml.Section
import Plugboard.Proofs.Data.Table
import Plugboard.Proofs.Data.Members
import Plugboard.Proofs.Registry.Ledger
import Plugboard.Proofs.Registry.Order
import Plugboard.Proofs.Registry.Mirror
import Plugboard.Proofs.Registry.Views
import Plugboard.Proofs.Engine.Runs
import Plugboard.Proofs.Dispatch.Encounter
import Plugboard.Proofs.Dispatch.Journey
import Plugboard.Proofs.Dispatch.Conservation
import Plugboard.Proofs.Dispatch.Veto
import Plugboard.Proofs.Dispatch.Graceful
import Plugboard.Proofs.Dispatch.Completion
import Plugboard.Proofs.Registry.Commands
import Plugboard.Proofs.Registry.Holdings
import Plugboard.Proofs.Registry.Handles
import Plugboard.Proofs.Registry.Refusals
import Plugboard.Proofs.Registry.Fitting
import Plugboard.Proofs.Dispatch.Typing
import Plugboard.Proofs.Circuit.History
import Plugboard.Proofs.Circuit.Automaton
import Plugboard.Proofs.Circuit.Blackout
import Plugboard.Proofs.Circuit.Records
import Plugboard.Proofs.Circuit.Timeout
import Plugboard.Proofs.Pipeline.Trace
import Plugboard.Proofs.Pipeline.Linearity
import Plugboard.Proofs.Pipeline.Attribution
import Plugboard.Proofs.Pipeline.Skipping
import Plugboard.Proofs.Engine.Invariants
import Plugboard.Proofs.Engine.Commands
import Plugboard.Proofs.Engine.Offers
import Plugboard.Proofs.Queue.Workload
import Plugboard.Proofs.Queue.Conservation
import Plugboard.Proofs.Queue.Worker
import Plugboard.Proofs.Queue.Keys
import Plugboard.Proofs.Queue.Exclusivity
import Plugboard.Proofs.Queue.Moves
import Plugboard.Proofs.Queue.Admission
import Plugboard.Proofs.Queue.Lives
import Plugboard.Proofs.Queue.Liveness
import Plugboard.Proofs.Queue.Retries
import Plugboard.Proofs.Queue.Backoff
import Plugboard.Proofs.Engine.Soundness
import Plugboard.Proofs.Engine.Program
import Plugboard.Proofs.Dispatch.Bookkeeping
import Plugboard.Proofs.Dispatch.Isolation
import Plugboard.Proofs.Dispatch.Silenced
import Plugboard.Proofs.Engine.Muting
import Plugboard.Proofs.Dispatch.Frame
import Plugboard.Proofs.Dispatch.Notification
import Plugboard.Proofs.Dispatch.Timeline
import Plugboard.Proofs.Registry.Toggles
import Plugboard.Proofs.Engine.Lockstep
import Plugboard.Proofs.Dispatch.Handover
import Plugboard.Proofs.Dispatch.ShortCircuit
import Plugboard.Proofs.Data.Reader
import Plugboard.Proofs.Settings.RoundTrip
import Plugboard.Proofs.Data.Overlay
import Plugboard.Proofs.Toml.Orderly
import Plugboard.Proofs.Settings.Parts
import Plugboard.Proofs.Settings.Precedence
import Plugboard.Proofs.Data.Omission
import Plugboard.Proofs.Settings.Partial
import Plugboard.Proofs.Settings.Profile
import Plugboard.Proofs.Strategy.Sums
import Plugboard.Proofs.Data.Rounding
import Plugboard.Proofs.Strategy.Extremes
import Plugboard.Proofs.Strategy.Splitting
import Plugboard.Proofs.Queue.Collected
import Plugboard.Proofs.Logging.Longest
import Plugboard.Proofs.Declaration.Wiring
