import AttachGate.App.Basic
import AttachGate.App.Snapshot
import AttachGate.Base64
import AttachGate.Change.Flip
import AttachGate.Change.Job
import AttachGate.Change.Run
import AttachGate.Change.Script
import AttachGate.Change.Watch
import AttachGate.Cluster
import AttachGate.CommandLine.Amount
import AttachGate.CommandLine.Command
import AttachGate.CommandLine.Options
import AttachGate.CommandLine.Run
import AttachGate.Coordinator
import AttachGate.Exec.Access
import AttachGate.Exec.Pump
import AttachGate.Exec.Relay
import AttachGate.Exec.Status
import AttachGate.Failure
import AttachGate.Gate.Basic
import AttachGate.Gate.Client
import AttachGate.Gate.Handler
import AttachGate.Gate.Schedule
import AttachGate.Json.Document
import AttachGate.Json.Fault
import AttachGate.Json.Reader
import AttachGate.Json.Source
import AttachGate.Json.Writer
import AttachGate.Main
import AttachGate.Number.Arithmetic
import AttachGate.Number.Basic
import AttachGate.Number.Binary64
import AttachGate.Number.Numeral
import AttachGate.Number.Shortest
import AttachGate.Proofs.App.Snapshots
import AttachGate.Proofs.Change.Attempts
import AttachGate.Proofs.Change.Cancellation
import AttachGate.Proofs.Change.Endings
import AttachGate.Proofs.Change.Failures
import AttachGate.Proofs.Change.Moments
import AttachGate.Proofs.Change.Polls
import AttachGate.Proofs.Change.Results
import AttachGate.Proofs.Change.Updates
import AttachGate.Proofs.Change.Waiting
import AttachGate.Proofs.Cluster.Writes
import AttachGate.Proofs.CommandLine.Precedence
import AttachGate.Proofs.Coordinator.Completion
import AttachGate.Proofs.Coordinator.Flags
import AttachGate.Proofs.Coordinator.Register
import AttachGate.Proofs.Coordinator.Turns
import AttachGate.Proofs.Course
import AttachGate.Proofs.Exec.Conduct
import AttachGate.Proofs.Exec.Delivery
import AttachGate.Proofs.Exec.Framing
import AttachGate.Proofs.Exec.Verdicts
import AttachGate.Proofs.Gate.Accounts
import AttachGate.Proofs.Gate.Admission
import AttachGate.Proofs.Gate.Attendance
import AttachGate.Proofs.Gate.Effects
import AttachGate.Proofs.Gate.Endings
import AttachGate.Proofs.Gate.Events
import AttachGate.Proofs.Gate.Handlers
import AttachGate.Proofs.Gate.Moves
import AttachGate.Proofs.Gate.Outcomes
import AttachGate.Proofs.Gate.Record
import AttachGate.Proofs.Gate.Refusals
import AttachGate.Proofs.Gate.Roster
import AttachGate.Proofs.Json.Octets
import AttachGate.Proofs.Json.Reading
import AttachGate.Proofs.Json.RoundTrip
import AttachGate.Proofs.Json.Strings
import AttachGate.Proofs.Retry.Delays
import AttachGate.Proofs.Retry.Outcomes
import AttachGate.Proofs.Session.Answers
import AttachGate.Proofs.Session.Attendance
import AttachGate.Proofs.Session.Books
import AttachGate.Proofs.Session.Cache
import AttachGate.Proofs.Session.Counts
import AttachGate.Proofs.Session.Endings
import AttachGate.Proofs.Session.Flips
import AttachGate.Proofs.Session.Intents
import AttachGate.Proofs.Session.Omission
import AttachGate.Proofs.Session.Period
import AttachGate.Proofs.Session.Run
import AttachGate.Proofs.Session.Shutdown
import AttachGate.Proofs.Session.Tending
import AttachGate.Proofs.Session.Tickets
import AttachGate.Proofs.Terminal.Input
import AttachGate.Proofs.Terminal.Output
import AttachGate.Proofs.Terminal.Sizes
import AttachGate.Proofs.Terminal.Transitions
import AttachGate.Proofs.Text.Numerals
import AttachGate.Proofs.Tool.Arguments
import AttachGate.Proofs.Tool.Exchanges
import AttachGate.Proofs.Tool.Lookouts
import AttachGate.Proofs.Tool.Misprints
import AttachGate.Proofs.Tool.Polling
import AttachGate.Proofs.Tool.Replies
import AttachGate.Proofs.Tool.Rewriting
import AttachGate.Proofs.Tool.Supersession
import AttachGate.Proofs.Value.Members
import AttachGate.Proofs.Value.Sameness
import AttachGate.Proofs.Wire.Base64
import AttachGate.Proofs.Wire.Opening
import AttachGate.Proofs.Wire.RoundTrip
import AttachGate.Retry.Backoff
import AttachGate.Retry.Stage
import AttachGate.Retry.Trial
import AttachGate.Retry.Wait
import AttachGate.Server
import AttachGate.Session.Basic
import AttachGate.Session.Bench
import AttachGate.Session.Caller
import AttachGate.Session.Runner
import AttachGate.Session.Schedule
import AttachGate.Settings
import AttachGate.Terminal.Line
import AttachGate.Terminal.Outlet
import AttachGate.Terminal.Reader
import AttachGate.Text.Basic
import AttachGate.Text.Blank
import AttachGate.Text.Digit
import AttachGate.Text.Encoding
import AttachGate.Text.Printable
import AttachGate.Text.Quoted
import AttachGate.Text.Upper
import AttachGate.Tool.Command
import AttachGate.Tool.Drive
import AttachGate.Tool.Exchange
import AttachGate.Value.Access
import AttachGate.Value.Basic
import AttachGate.Value.Display
import AttachGate.Value.Equal
import AttachGate.Wire.Request
import AttachGate.Wire.Response
import AttachGate.Wire.Service
