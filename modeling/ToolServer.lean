import ToolServer.Cache.Backend
import ToolServer.Cache.Config
import ToolServer.Cache.Key
import ToolServer.Cache.Store
import ToolServer.Cache.Sweep
import ToolServer.Cli.Arguments
import ToolServer.Cli.Commands
import ToolServer.Config.Environment
import ToolServer.Config.File
import ToolServer.Config.Http
import ToolServer.Config.Logging
import ToolServer.Config.Server
import ToolServer.Demo.Tools
import ToolServer.Digest.Sha256
import ToolServer.Duration.Basic
import ToolServer.Duration.Calendar
import ToolServer.Duration.Decode
import ToolServer.Duration.Words
import ToolServer.Error
import ToolServer.Event.Basic
import ToolServer.Event.Block
import ToolServer.Execution.Behaviour
import ToolServer.Execution.Config
import ToolServer.Execution.Context
import ToolServer.Execution.Engine
import ToolServer.Execution.Run
import ToolServer.Execution.Schedule
import ToolServer.Execution.Script
import ToolServer.Execution.Timer
import ToolServer.Execution.Token
import ToolServer.Http.Message
import ToolServer.Http.Service
import ToolServer.Json.Decode
import ToolServer.Json.Printer
import ToolServer.Json.Reader
import ToolServer.Json.Typed
import ToolServer.Json.Value
import ToolServer.Main
import ToolServer.Number.Binary64
import ToolServer.Number.Shortest
import ToolServer.Proofs.Cache.Capacity
import ToolServer.Proofs.Cache.Key
import ToolServer.Proofs.Cache.Ledger
import ToolServer.Proofs.Cache.Lookup
import ToolServer.Proofs.Cache.Recency
import ToolServer.Proofs.Cache.Survival
import ToolServer.Proofs.Cache.Sweeper
import ToolServer.Proofs.Cache.Sweeping
import ToolServer.Proofs.Config.Overrides
import ToolServer.Proofs.Config.ReadBack
import ToolServer.Proofs.Demo.Countdown
import ToolServer.Proofs.Event.LineBreaks
import ToolServer.Proofs.Event.ReadBack
import ToolServer.Proofs.Execution.Admission
import ToolServer.Proofs.Execution.Cancellation
import ToolServer.Proofs.Execution.Counts
import ToolServer.Proofs.Execution.Crowding
import ToolServer.Proofs.Execution.Custody
import ToolServer.Proofs.Execution.Delivery
import ToolServer.Proofs.Execution.Emission
import ToolServer.Proofs.Execution.Exchanges
import ToolServer.Proofs.Execution.Interleaving
import ToolServer.Proofs.Execution.Outcome
import ToolServer.Proofs.Execution.Slots
import ToolServer.Proofs.Execution.Stream
import ToolServer.Proofs.Execution.Transition
import ToolServer.Proofs.Http.Exchanges
import ToolServer.Proofs.Http.Origins
import ToolServer.Proofs.Http.Streams
import ToolServer.Proofs.Json.Canonical
import ToolServer.Proofs.Json.OneLine
import ToolServer.Proofs.Json.ReadBack
import ToolServer.Proofs.Json.Unambiguous
import ToolServer.Proofs.Number.Layout
import ToolServer.Proofs.Number.Rounding
import ToolServer.Proofs.Protocol.ReadBack
import ToolServer.Proofs.Protocol.Request
import ToolServer.Proofs.Server.Accounts
import ToolServer.Proofs.Server.Answers
import ToolServer.Proofs.Server.Attendance
import ToolServer.Proofs.Server.Burst
import ToolServer.Proofs.Server.Collected
import ToolServer.Proofs.Server.Continuity
import ToolServer.Proofs.Server.Lifetimes
import ToolServer.Proofs.Server.Pouring
import ToolServer.Proofs.Server.Recital
import ToolServer.Proofs.Server.Refusals
import ToolServer.Proofs.Server.Responses
import ToolServer.Proofs.Server.Results
import ToolServer.Proofs.Server.Reuse
import ToolServer.Proofs.Server.Router
import ToolServer.Proofs.Server.Storage
import ToolServer.Proofs.Server.Waiting
import ToolServer.Proofs.Text.Utf8
import ToolServer.Proofs.Tool.Registry
import ToolServer.Proofs.Tool.Schema
import ToolServer.Proofs.Transport.InTurn
import ToolServer.Proofs.Transport.Lines
import ToolServer.Protocol.Message
import ToolServer.Protocol.RpcError
import ToolServer.Server.Basic
import ToolServer.Server.Call
import ToolServer.Server.Request
import ToolServer.Server.Waiting
import ToolServer.Text.Alphanumeric
import ToolServer.Text.Blank
import ToolServer.Text.Digits
import ToolServer.Text.Quoted
import ToolServer.Text.Unprintable
import ToolServer.Text.Utf8
import ToolServer.Toml.Reader
import ToolServer.Toml.Value
import ToolServer.Tool.Caching
import ToolServer.Tool.Definition
import ToolServer.Tool.Outline
import ToolServer.Tool.Parameter
import ToolServer.Tool.Registry
import ToolServer.Transport.Blocks
import ToolServer.Transport.Lines
import ToolServer.Transport.Sink
import ToolServer.Yaml.Cursor
import ToolServer.Yaml.Node
import ToolServer.Yaml.Reader
import ToolServer.Yaml.Scalar
import ToolServer.Yaml.Token
