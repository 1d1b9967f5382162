import ScatterGather.Binary64.Basic
import ScatterGather.Binary64.Shortest
import ScatterGather.Cell.Basic
import ScatterGather.Cell.Convert
import ScatterGather.Collector.Registry
import ScatterGather.Collector.Wait
import ScatterGather.CommandLine.Arguments
import ScatterGather.CommandLine.Help
import ScatterGather.CommandLine.LogFilter
import ScatterGather.CommandLine.Run
import ScatterGather.Config.Basic
import ScatterGather.Config.EnvironmentFile
import ScatterGather.Config.Load
import ScatterGather.Connection.Engine
import ScatterGather.Connection.GroupRun
import ScatterGather.Connection.Next
import ScatterGather.Connection.Strategy
import ScatterGather.Cursor.Basic
import ScatterGather.Cursor.Concatenation
import ScatterGather.Cursor.Memory
import ScatterGather.Cursor.Unit
import ScatterGather.Dispatch.Acquisition
import ScatterGather.Document.Basic
import ScatterGather.Document.Record
import ScatterGather.Duration
import ScatterGather.Engine
import ScatterGather.Error
import ScatterGather.Forward.Engine
import ScatterGather.Forward.Next
import ScatterGather.Handler
import ScatterGather.Http.ContentType
import ScatterGather.Http.Response
import ScatterGather.Http.Router
import ScatterGather.Json.Number
import ScatterGather.Json.Printer
import ScatterGather.Json.Reader
import ScatterGather.Log
import ScatterGather.Main
import ScatterGather.Merge.LogicalResult
import ScatterGather.Merge.Strategy
import ScatterGather.Merge.UpdateSummary
import ScatterGather.MessagePack.Reader
import ScatterGather.MessagePack.Writer
import ScatterGather.Metrics
import ScatterGather.Outcome.Basic
import ScatterGather.Outcome.Metadata
import ScatterGather.Proofs.Acquisition
import ScatterGather.Proofs.Cell.ReadBack
import ScatterGather.Proofs.Collector.Claimant
import ScatterGather.Proofs.Collector.CompletesOnce
import ScatterGather.Proofs.Collector.ExactlyOnce
import ScatterGather.Proofs.Collector.Ledger
import ScatterGather.Proofs.Collector.Leftovers
import ScatterGather.Proofs.Collector.Moves
import ScatterGather.Proofs.Collector.Owners
import ScatterGather.Proofs.Collector.Progress
import ScatterGather.Proofs.Collector.Standing
import ScatterGather.Proofs.Collector.Truthful
import ScatterGather.Proofs.Collector.Wait
import ScatterGather.Proofs.Collector.WakeUps
import ScatterGather.Proofs.Config.Layers
import ScatterGather.Proofs.Connection.AnySchedule
import ScatterGather.Proofs.Connection.Course
import ScatterGather.Proofs.Connection.GivenBack
import ScatterGather.Proofs.Connection.GivenUp
import ScatterGather.Proofs.Connection.InTurn
import ScatterGather.Proofs.Connection.Lifecycle
import ScatterGather.Proofs.Connection.Moves
import ScatterGather.Proofs.Connection.Progress
import ScatterGather.Proofs.Connection.Sending
import ScatterGather.Proofs.Connection.NeverStuck
import ScatterGather.Proofs.Connection.Runners
import ScatterGather.Proofs.Connection.SentInTurn
import ScatterGather.Proofs.Connection.Tasks
import ScatterGather.Proofs.Connection.Turns
import ScatterGather.Proofs.Cursor
import ScatterGather.Proofs.Cursor.Buffered
import ScatterGather.Proofs.Cursor.Calls
import ScatterGather.Proofs.Cursor.Visits
import ScatterGather.Proofs.Dispatch.Gathered
import ScatterGather.Proofs.Dispatch.Paths
import ScatterGather.Proofs.Dispatch.Replies
import ScatterGather.Proofs.Dispatch.Resources
import ScatterGather.Proofs.Document.Layout
import ScatterGather.Proofs.Document.Nesting
import ScatterGather.Proofs.Document.Records
import ScatterGather.Proofs.Document.Slots
import ScatterGather.Proofs.FirstError
import ScatterGather.Proofs.Forward.Answered
import ScatterGather.Proofs.Forward.Apart
import ScatterGather.Proofs.Forward.Channels
import ScatterGather.Proofs.Forward.Cleanup
import ScatterGather.Proofs.Forward.Course
import ScatterGather.Proofs.Forward.EarlyReplies
import ScatterGather.Proofs.Forward.Encounters
import ScatterGather.Proofs.Forward.Faring
import ScatterGather.Proofs.Forward.FirstReplies
import ScatterGather.Proofs.Forward.Moves
import ScatterGather.Proofs.Forward.Progress
import ScatterGather.Proofs.Forward.Registrations
import ScatterGather.Proofs.Forward.Script
import ScatterGather.Proofs.Forward.Steps
import ScatterGather.Proofs.Forward.Tickets
import ScatterGather.Proofs.Forward.Verdict
import ScatterGather.Proofs.Merge.CurrentRow
import ScatterGather.Proofs.Merge.ListCursor
import ScatterGather.Proofs.Merge.Totals
import ScatterGather.Proofs.MessagePack.Heads
import ScatterGather.Proofs.MessagePack.RoundTrip
import ScatterGather.Proofs.MessagePack.Spellings
import ScatterGather.Proofs.Route
import ScatterGather.Proofs.Route.Partition
import ScatterGather.Proofs.Run
import ScatterGather.Proofs.Service.Answers
import ScatterGather.Proofs.Service.Counters
import ScatterGather.Proofs.Service.Gate
import ScatterGather.Proofs.Service.Moves
import ScatterGather.Proofs.Service.Versions
import ScatterGather.Proofs.Startup
import ScatterGather.Proofs.TableVersions
import ScatterGather.Proofs.Wire.CutStreams
import ScatterGather.Proofs.Wire.Frames
import ScatterGather.Proofs.Wire.Layouts
import ScatterGather.Proofs.Wire.Messages
import ScatterGather.Proofs.Wire.OtherEncoders
import ScatterGather.Proofs.Wire.RoundTrip
import ScatterGather.Proofs.Wire.Streams
import ScatterGather.Proofs.Worker.Bounded
import ScatterGather.Proofs.Worker.Moves
import ScatterGather.Proofs.Worker.Permits
import ScatterGather.Rehearsal.Agenda
import ScatterGather.Rehearsal.Guard
import ScatterGather.Rehearsal.Network
import ScatterGather.Rehearsal.Pending
import ScatterGather.Rehearsal.Pool
import ScatterGather.Rehearsal.Registry
import ScatterGather.Rehearsal.Script
import ScatterGather.Rehearsal.Session
import ScatterGather.Rehearsal.World
import ScatterGather.Response
import ScatterGather.Route.Basic
import ScatterGather.Route.Statement
import ScatterGather.Server.Journal
import ScatterGather.Server.Link
import ScatterGather.Server.Running
import ScatterGather.Server.Surface
import ScatterGather.Service
import ScatterGather.SystemFault
import ScatterGather.TableVersions
import ScatterGather.Text.Alphanumeric
import ScatterGather.Text.Ascii
import ScatterGather.Text.Debug
import ScatterGather.Text.Hex
import ScatterGather.Text.Printable
import ScatterGather.Toml.Reader
import ScatterGather.Toml.Scalar
import ScatterGather.Toml.Table
import ScatterGather.Toml.Text
import ScatterGather.Transaction
import ScatterGather.Wire.Exchange
import ScatterGather.Wire.Frame
import ScatterGather.Wire.Message
import ScatterGather.Worker.Pool
import ScatterGather.Worker.Task
