import QuadDaq.Board.Basic
import QuadDaq.Board.Bus
import QuadDaq.Board.Command
import QuadDaq.Board.Fault
import QuadDaq.Board.ReadyWait
import QuadDaq.Board.Scripted
import QuadDaq.Board.Simulated
import QuadDaq.Bridge
import QuadDaq.Button
import QuadDaq.Calibration
import QuadDaq.Channel
import QuadDaq.Cli.Arguments
import QuadDaq.Cli.Failure
import QuadDaq.Cli.Files
import QuadDaq.Cli.Help
import QuadDaq.Cli.LogFile
import QuadDaq.Cli.LogFilter
import QuadDaq.Cli.Program
import QuadDaq.Cli.Report
import QuadDaq.Cli.SelfCheck
import QuadDaq.Cli.Stream
import QuadDaq.Config.CalibrationTable
import QuadDaq.Config.Csv
import QuadDaq.Config.Decode
import QuadDaq.Config.Types
import QuadDaq.Config.Validate
import QuadDaq.Decimal.Fixed
import QuadDaq.Decimal.Layout
import QuadDaq.Decimal.Reading
import QuadDaq.Decimal.Shortest
import QuadDaq.Delivery.Basic
import QuadDaq.Delivery.Batch
import QuadDaq.Delivery.Consumers
import QuadDaq.Delivery.ErrorSet
import QuadDaq.Delivery.Handoff
import QuadDaq.Delivery.Loans
import QuadDaq.Delivery.Outlet
import QuadDaq.Delivery.Registration
import QuadDaq.Driver.Basic
import QuadDaq.Driver.Build
import QuadDaq.Error
import QuadDaq.Json.Parser
import QuadDaq.Json.Printer
import QuadDaq.Json.Value
import QuadDaq.Main
import QuadDaq.Queue
import QuadDaq.Rig.Board
import QuadDaq.Rig.Session
import QuadDaq.Settings.Command
import QuadDaq.Settings.Document
import QuadDaq.Settings.Key
import QuadDaq.Settings.Refusal
import QuadDaq.Settings.Store
import QuadDaq.Stream.Engine
import QuadDaq.Stream.Sampler
import QuadDaq.Text.Alphanumeric
import QuadDaq.Text.Blank
import QuadDaq.Text.Quoted
import QuadDaq.Text.Ranges
import QuadDaq.Text.Search
import QuadDaq.Text.Unprintable
import QuadDaq.Text.Whole
import QuadDaq.Time
import QuadDaq.Toml.Parser
import QuadDaq.Toml.Scalar
import QuadDaq.Toml.Table
import QuadDaq.Toml.Value
import QuadDaq.Proofs.Stream.Course
import QuadDaq.Proofs.Stream.Change
import QuadDaq.Proofs.Stream.Replay
import QuadDaq.Proofs.Stream.Blocks
import QuadDaq.Proofs.Delivery.Change
import QuadDaq.Proofs.Delivery.Ledger
import QuadDaq.Proofs.Delivery.Balance
import QuadDaq.Proofs.Delivery.Order
import QuadDaq.Proofs.Delivery.Ended
import QuadDaq.Proofs.Settings.Documents
import QuadDaq.Proofs.Settings.Commit
import QuadDaq.Proofs.Settings.Shaping
import QuadDaq.Proofs.Settings.Apply
import QuadDaq.Proofs.Settings.Selection
import QuadDaq.Proofs.Settings.Invariants
import QuadDaq.Proofs.Stream.Tally
import QuadDaq.Proofs.Driver.Moves
import QuadDaq.Proofs.Driver.Runs
import QuadDaq.Proofs.Driver.Conservation
import QuadDaq.Proofs.Stream.History
import QuadDaq.Proofs.Driver.History
import QuadDaq.Proofs.Delivery.Prompt
import QuadDaq.Proofs.Driver.Prompt
import QuadDaq.Proofs.Driver.Streams
import QuadDaq.Proofs.Driver.Reference
import QuadDaq.Proofs.Driver.Loss
import QuadDaq.Proofs.Driver.Guarding
import QuadDaq.Proofs.Stream.Calls
import QuadDaq.Proofs.Driver.Engines
import QuadDaq.Proofs.Driver.Routing
import QuadDaq.Proofs.Driver.Settling
import QuadDaq.Proofs.Stream.Measuring
import QuadDaq.Proofs.Driver.Lifecycle
import QuadDaq.Proofs.Driver.Shape
import QuadDaq.Proofs.Driver.Separation
import QuadDaq.Proofs.Driver.Independence
import QuadDaq.Proofs.Delivery.Handoff
import QuadDaq.Proofs.Delivery.Attendance
import QuadDaq.Proofs.Delivery.Claiming
import QuadDaq.Proofs.Stream.Signals
import QuadDaq.Proofs.Stream.Presses
import QuadDaq.Proofs.Delivery.Transitions
import QuadDaq.Proofs.Driver.Events
import QuadDaq.Proofs.Driver.Presses
import QuadDaq.Proofs.Stream.Reports
import QuadDaq.Proofs.Delivery.Reports
import QuadDaq.Proofs.Driver.Reports
import QuadDaq.Proofs.Delivery.Callees
import QuadDaq.Proofs.Delivery.Fates
import QuadDaq.Proofs.Driver.Transitions
import QuadDaq.Proofs.Settings.Agreement
import QuadDaq.Proofs.Stream.Rerouting
import QuadDaq.Proofs.Driver.Rerouting
import QuadDaq.Proofs.Delivery.Renewal
import QuadDaq.Proofs.Stream.Renewal
import QuadDaq.Proofs.Driver.Renewal
import QuadDaq.Proofs.Driver.Racing
import QuadDaq.Proofs.Settings.Presets
import QuadDaq.Proofs.Settings.Later
import QuadDaq.Proofs.Settings.Literals
import QuadDaq.Proofs.Settings.Racing
import QuadDaq.Proofs.Config.Tables
import QuadDaq.Proofs.Config.Validation
import QuadDaq.Proofs.Cli.Opening
import QuadDaq.Proofs.Cli.Layers
import QuadDaq.Proofs.Driver.Limits
import QuadDaq.Proofs.Button
import QuadDaq.Proofs.Decimal.Whole
import QuadDaq.Proofs.Settings.Restoring
import QuadDaq.Proofs.Board.Bus
import QuadDaq.Proofs.Board.Simulated
import QuadDaq.Proofs.Decimal.Seconds
import QuadDaq.Proofs.Driver.Deadlines
import QuadDaq.Proofs.Cli.Streaming
import QuadDaq.Proofs.Config.Pins
import QuadDaq.Proofs.Delivery.Loans
import QuadDaq.Proofs.Delivery.Lending
import QuadDaq.Proofs.Board.ReadyWait
