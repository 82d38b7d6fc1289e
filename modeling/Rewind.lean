import Rewind.Anchor
import Rewind.Batch.Agenda
import Rewind.Batch.Plan
import Rewind.Batch.Run
import Rewind.Batch.State
import Rewind.Command.Execute
import Rewind.Command.Help
import Rewind.Command.Option
import Rewind.Command.Parser
import Rewind.Config
import Rewind.Error
import Rewind.Files
import Rewind.History.Cursor
import Rewind.History.Event
import Rewind.History.Scan
import Rewind.Json.Double
import Rewind.Json.Printer
import Rewind.Json.Reader
import Rewind.Json.Record
import Rewind.Json.Value
import Rewind.Main
import Rewind.Metrics
import Rewind.Operator
import Rewind.Outcome
import Rewind.Program
import Rewind.Proofs.Batch.Accounting
import Rewind.Proofs.Batch.Bench
import Rewind.Proofs.Batch.Chronicle
import Rewind.Proofs.Batch.Confluence
import Rewind.Proofs.Batch.Feed
import Rewind.Proofs.Batch.Isolation
import Rewind.Proofs.Batch.OpenRuns
import Rewind.Proofs.Batch.Resets
import Rewind.Proofs.Batch.Session
import Rewind.Proofs.Batch.Settle
import Rewind.Proofs.Batch.Settled
import Rewind.Proofs.Batch.Solo
import Rewind.Proofs.Batch.Visits
import Rewind.Proofs.Charges
import Rewind.Proofs.Part
import Rewind.Proofs.Process
import Rewind.Proofs.Program
import Rewind.Proofs.Rename
import Rewind.Proofs.Service
import Rewind.Proofs.Twin
import Rewind.ReapplyPolicy
import Rewind.Report
import Rewind.ResetPoint
import Rewind.Resolve
import Rewind.Retry
import Rewind.Safety
import Rewind.Service.Basic
import Rewind.Service.Error
import Rewind.Service.Fixture
import Rewind.Service.Message
import Rewind.Service.Paging
import Rewind.Service.Store
import Rewind.Settings
import Rewind.Strategy
import Rewind.Target.Exclusions
import Rewind.Target.Line
import Rewind.Target.Lines
import Rewind.Target.Source
import Rewind.Text.Blank
import Rewind.Text.Decimal
import Rewind.Text.Lines
import Rewind.Text.Quoted
import Rewind.Text.Split
import Rewind.Text.Utf8
import Rewind.Text.Visible
import Rewind.Time.Calendar
import Rewind.Time.Duration
import Rewind.Time.Timestamp
import Rewind.Uuid
import Rewind.Verbosity
import Rewind.Workflow
import Rewind.Proofs.Batch.Exclusions
import Rewind.Proofs.View
import Rewind.Proofs.Batch.Trace
import Rewind.Proofs.Batch.Steady
import Rewind.Proofs.Batch.Retried
import Rewind.Proofs.Batch.DryRun
import Rewind.Proofs.EmptyRun
import Rewind.Proofs.Batch.EmptyRun
import Rewind.Proofs.ResetOne
import Rewind.Proofs.Lineage
import Rewind.Proofs.Paging
import Rewind.Proofs.Reading
import Rewind.Proofs.Metrics
import Rewind.Proofs.Batch.Behaviour
import Rewind.Proofs.Batch.Progress
import Rewind.Proofs.Batch.Termination
import Rewind.Proofs.Amid
import Rewind.Proofs.Batch.Amid
import Rewind.Proofs.Volume
import Rewind.Proofs.Batch.Rerun
import Rewind.Proofs.Deadline
import Rewind.Proofs.TargetFile
import Rewind.Proofs.Batch.Deadline
import Rewind.Proofs.Run
import Rewind.Proofs.Batch.Unchecked
import Rewind.Proofs.Batch.Single
import Rewind.Proofs.Decimal
import Rewind.Proofs.Json.Text
import Rewind.Proofs.Json.Form
import Rewind.Proofs.Json.Map
import Rewind.Proofs.Utf8
import Rewind.Proofs.Uuid
import Rewind.Proofs.TaskOrder
import Rewind.Proofs.Timestamp
import Rewind.Proofs.Files
import Rewind.Proofs.Forms
import Rewind.Proofs.Report
import Rewind.Proofs.RoundTrip
import Rewind.Proofs.Split
import Rewind.Proofs.Scan
import Rewind.Proofs.Quiet
import Rewind.Proofs.Resolve
import Rewind.Proofs.Safety
import Rewind.Proofs.Atomic
import Rewind.Proofs.TargetLine
import Rewind.Proofs.Batch.TargetFile
import Rewind.Proofs.ResetRun
import Rewind.Proofs.Retry
import Rewind.Proofs.Batch.ResetRun
import Rewind.Proofs.Batch.NextItem
import Rewind.Proofs.Batch.PageRetries
import Rewind.Proofs.TargetRow
import Rewind.Proofs.Lines
import Rewind.Proofs.Readers
import Rewind.Proofs.Fetches
import Rewind.Proofs.Listing
import Rewind.Proofs.Command.Prepare
import Rewind.Proofs.Words
import Rewind.Proofs.Command.Execute
