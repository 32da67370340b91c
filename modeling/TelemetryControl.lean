import TelemetryControl.Address
import TelemetryControl.Admin
import TelemetryControl.Agent
import TelemetryControl.Check
import TelemetryControl.Config
import TelemetryControl.Config.Load
import TelemetryControl.Config.Loggers
import TelemetryControl.Config.Problem
import TelemetryControl.Control
import TelemetryControl.ControlLoop
import TelemetryControl.Daemon
import TelemetryControl.Directory
import TelemetryControl.Directory.Change
import TelemetryControl.Document
import TelemetryControl.Event
import TelemetryControl.Event.Stream
import TelemetryControl.Fault
import TelemetryControl.FilePath
import TelemetryControl.Gate
import TelemetryControl.Json
import TelemetryControl.Json.Reader
import TelemetryControl.LoggerName
import TelemetryControl.LoggerTree
import TelemetryControl.Main
import TelemetryControl.Metrics
import TelemetryControl.NameTable
import TelemetryControl.Notice
import TelemetryControl.Number.Binary64
import TelemetryControl.Number.Layout
import TelemetryControl.Number.Numeral
import TelemetryControl.Number.Shortest
import TelemetryControl.Number.Unsigned
import TelemetryControl.Operator
import TelemetryControl.Options
import TelemetryControl.Overrides
import TelemetryControl.Proofs.Admin.Decision
import TelemetryControl.Proofs.Admin.Holder
import TelemetryControl.Proofs.Admin.Refusal
import TelemetryControl.Proofs.Check.Prediction
import TelemetryControl.Proofs.Config.Loggers
import TelemetryControl.Proofs.Config.Startup
import TelemetryControl.Proofs.Control.Echo
import TelemetryControl.Proofs.Control.Run
import TelemetryControl.Proofs.ControlLoop.Run
import TelemetryControl.Proofs.ControlLoop.WakeUps
import TelemetryControl.Proofs.Gate.Sampling
import TelemetryControl.Proofs.Gate.Sinks
import TelemetryControl.Proofs.Gate.Thresholds
import TelemetryControl.Proofs.Json.Grammar
import TelemetryControl.Proofs.Json.Numeral
import TelemetryControl.Proofs.Json.Quoted
import TelemetryControl.Proofs.Json.RoundTrip
import TelemetryControl.Proofs.Json.Token
import TelemetryControl.Proofs.Json.WellFormed
import TelemetryControl.Proofs.LoggerName.Resolution
import TelemetryControl.Proofs.LoggerName.Spelling
import TelemetryControl.Proofs.LoggerName.Target
import TelemetryControl.Proofs.LoggerName.Walk
import TelemetryControl.Proofs.LoggerTree.Levels
import TelemetryControl.Proofs.LoggerTree.Registration
import TelemetryControl.Proofs.LoggerTree.Walks
import TelemetryControl.Proofs.Number.Places
import TelemetryControl.Proofs.Number.Product
import TelemetryControl.Proofs.Number.Value
import TelemetryControl.Proofs.Registry.Account
import TelemetryControl.Proofs.Registry.Apply
import TelemetryControl.Proofs.Registry.Baseline
import TelemetryControl.Proofs.Registry.Overlay
import TelemetryControl.Proofs.Registry.Routing
import TelemetryControl.Proofs.Sampling.Equality
import TelemetryControl.Proofs.Sampling.Fraction
import TelemetryControl.Proofs.Sampling.Requests
import TelemetryControl.Proofs.Sampling.Threshold
import TelemetryControl.Proofs.Sampling.TraceText
import TelemetryControl.Proofs.Snapshot.Services
import TelemetryControl.Proofs.Text.Hex
import TelemetryControl.Proofs.Text.Octets
import TelemetryControl.Proofs.Text.Order
import TelemetryControl.Proofs.Text.Percent
import TelemetryControl.Proofs.TraceScope.Guards
import TelemetryControl.Proofs.TraceScope.Scopes
import TelemetryControl.Registry
import TelemetryControl.Sampling.Sampler
import TelemetryControl.Sampling.TraceId
import TelemetryControl.Schedule
import TelemetryControl.Severity
import TelemetryControl.Shutdown
import TelemetryControl.Snapshot
import TelemetryControl.Snapshot.Decode
import TelemetryControl.Snapshot.Encode
import TelemetryControl.Snapshot.Format
import TelemetryControl.SocketAddress
import TelemetryControl.SocketAddress.Listening
import TelemetryControl.SocketAddress.Lookup
import TelemetryControl.Source
import TelemetryControl.Text.Ascii
import TelemetryControl.Text.Blank
import TelemetryControl.Text.Composed
import TelemetryControl.Text.Composed.Pairs
import TelemetryControl.Text.Composed.Rank
import TelemetryControl.Text.Composed.Substitutes
import TelemetryControl.Text.Hex
import TelemetryControl.Text.Hidden
import TelemetryControl.Text.Mark
import TelemetryControl.Text.Percent
import TelemetryControl.Text.Pieces
import TelemetryControl.Text.Quoted
import TelemetryControl.Text.Ranges
import TelemetryControl.Text.Unassigned
import TelemetryControl.Toml.Reader
import TelemetryControl.Toml.Scalar
import TelemetryControl.Toml.Tables
import TelemetryControl.TraceScope
import TelemetryControl.Transcript
import TelemetryControl.Url
import TelemetryControl.Url.Domain
import TelemetryControl.Url.Domain.Direction
import TelemetryControl.Url.Domain.Folding
import TelemetryControl.Url.Domain.Folding.Alphabets
import TelemetryControl.Url.Domain.Folding.Several
import TelemetryControl.Url.Domain.Folding.Single
import TelemetryControl.Url.Domain.Joining
import TelemetryControl.Url.Domain.Label
import TelemetryControl.Url.Host
import TelemetryControl.Url.Punycode
import TelemetryControl.Url.Version4
import TelemetryControl.Watch
