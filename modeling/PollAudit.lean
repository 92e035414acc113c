import PollAudit.Address
import PollAudit.Api.Endpoint
import PollAudit.Api.Error
import PollAudit.Api.Fetch
import PollAudit.Api.Source
import PollAudit.Audit.Batch
import PollAudit.Audit.Monitor
import PollAudit.Audit.Reconciler
import PollAudit.Audit.Run
import PollAudit.Audit.Script
import PollAudit.Audit.Source
import PollAudit.Codec.Polling
import PollAudit.Codec.Tree
import PollAudit.CommandLine
import PollAudit.Count
import PollAudit.Event
import PollAudit.Exit
import PollAudit.Failure
import PollAudit.Http.Exchange
import PollAudit.Http.Fault
import PollAudit.Http.Message
import PollAudit.Http.Script
import PollAudit.Http.Status
import PollAudit.Http.Uri
import PollAudit.Idna.Bidi
import PollAudit.Idna.Domain
import PollAudit.Idna.Label
import PollAudit.Idna.Mapping
import PollAudit.Idna.Punycode
import PollAudit.Json.Binary64
import PollAudit.Json.Cursor
import PollAudit.Json.Decoder
import PollAudit.Json.Fault
import PollAudit.Json.Number
import PollAudit.Json.Printer
import PollAudit.Json.Reader
import PollAudit.Json.Shape
import PollAudit.Json.Skip
import PollAudit.Json.Text
import PollAudit.Json.Value
import PollAudit.Main
import PollAudit.Polling.Aggregate
import PollAudit.Polling.Priority
import PollAudit.Polling.Stats
import PollAudit.Program
import PollAudit.Proofs.Address
import PollAudit.Proofs.Api.Documents
import PollAudit.Proofs.Api.Endpoint
import PollAudit.Proofs.Api.Error
import PollAudit.Proofs.Api.Source
import PollAudit.Proofs.Api.Status
import PollAudit.Proofs.Batch.Answers
import PollAudit.Proofs.Batch.Completion
import PollAudit.Proofs.Batch.Failure
import PollAudit.Proofs.Batch.Ordered
import PollAudit.Proofs.Batch.Outcome
import PollAudit.Proofs.Batch.Race
import PollAudit.Proofs.Batch.Rearranged
import PollAudit.Proofs.Batch.Sent
import PollAudit.Proofs.Batch.Success
import PollAudit.Proofs.Codec.Polling
import PollAudit.Proofs.Codec.Tree
import PollAudit.Proofs.CommandLine
import PollAudit.Proofs.Count
import PollAudit.Proofs.Cycle.Account
import PollAudit.Proofs.Cycle.Event
import PollAudit.Proofs.Cycle.Exchange
import PollAudit.Proofs.Cycle.Lift
import PollAudit.Proofs.Cycle.Outcome
import PollAudit.Proofs.Cycle.Step
import PollAudit.Proofs.Idna.Domain
import PollAudit.Proofs.Json.Alike
import PollAudit.Proofs.Json.Decoder
import PollAudit.Proofs.Json.Document
import PollAudit.Proofs.Json.Null
import PollAudit.Proofs.Json.Number
import PollAudit.Proofs.Json.Printer
import PollAudit.Proofs.Json.Reads
import PollAudit.Proofs.Json.Restores
import PollAudit.Proofs.Json.Sequence
import PollAudit.Proofs.Json.Shape
import PollAudit.Proofs.Json.Skip
import PollAudit.Proofs.Json.Text
import PollAudit.Proofs.Json.Value
import PollAudit.Proofs.Json.Yields
import PollAudit.Proofs.Machine.Basic
import PollAudit.Proofs.Machine.Cycle
import PollAudit.Proofs.Machine.Essence
import PollAudit.Proofs.Machine.Refinement
import PollAudit.Proofs.Machine.Run
import PollAudit.Proofs.Polling.Merge
import PollAudit.Proofs.Polling.Sum
import PollAudit.Proofs.Program.Usage
import PollAudit.Proofs.Reconciler.History
import PollAudit.Proofs.Reconciler.Move
import PollAudit.Proofs.Report.Shown
import PollAudit.Proofs.Report.Stream
import PollAudit.Proofs.Report.Tint
import PollAudit.Proofs.Report.Writer
import PollAudit.Proofs.Run.Basic
import PollAudit.Proofs.Run.Ending
import PollAudit.Proofs.Run.Output
import PollAudit.Proofs.Script
import PollAudit.Proofs.Session.Alarm
import PollAudit.Proofs.Session.Basic
import PollAudit.Proofs.Session.Cause
import PollAudit.Proofs.Session.Documents
import PollAudit.Proofs.Session.Exchange
import PollAudit.Proofs.Session.Failure
import PollAudit.Proofs.Session.Freshness
import PollAudit.Proofs.Session.Healthy
import PollAudit.Proofs.Session.Rearranged
import PollAudit.Proofs.Session.Report
import PollAudit.Proofs.Session.Sampling
import PollAudit.Proofs.Session.Streak
import PollAudit.Proofs.Session.Threshold
import PollAudit.Proofs.Session.Trace
import PollAudit.Proofs.Session.Warning
import PollAudit.Proofs.Session.World
import PollAudit.Proofs.Setting
import PollAudit.Proofs.Text.Line
import PollAudit.Proofs.Text.Normal
import PollAudit.Proofs.Text.Rendition
import PollAudit.Proofs.Text.Split
import PollAudit.Proofs.Text.Utf8
import PollAudit.Proofs.Tree.Expected
import PollAudit.Proofs.Tree.Points
import PollAudit.Proofs.Tree.Rearranged
import PollAudit.Proofs.Url.Authority
import PollAudit.Proofs.Url.Extend
import PollAudit.Proofs.Url.Host
import PollAudit.Proofs.Url.Parser
import PollAudit.Proofs.Url.Percent
import PollAudit.Proofs.Url.Segment
import PollAudit.Proofs.Warning
import PollAudit.Proofs.Wire.Alike
import PollAudit.Proofs.Wire.Counts
import PollAudit.Proofs.Wire.Replies
import PollAudit.Proofs.Wire.RoundTrip
import PollAudit.Report.Render
import PollAudit.Report.Writer
import PollAudit.Script
import PollAudit.Setting
import PollAudit.Text.Blank
import PollAudit.Text.Combining
import PollAudit.Text.Composite
import PollAudit.Text.Direction
import PollAudit.Text.Joining
import PollAudit.Text.Mark
import PollAudit.Text.Normal
import PollAudit.Text.Printable
import PollAudit.Text.Quoted
import PollAudit.Text.Ranges
import PollAudit.Text.Split
import PollAudit.Text.Table
import PollAudit.Text.Utf8
import PollAudit.Tree.Basic
import PollAudit.Tree.Expected
import PollAudit.Tree.Watched
import PollAudit.Url.Authority
import PollAudit.Url.Basic
import PollAudit.Url.Error
import PollAudit.Url.Extend
import PollAudit.Url.Host
import PollAudit.Url.Ipv4
import PollAudit.Url.Ipv6
import PollAudit.Url.Parser
import PollAudit.Url.Path
import PollAudit.Url.Percent
import PollAudit.Wire.Stats
import PollAudit.Wire.Tree
