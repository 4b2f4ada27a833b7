import DashboardRefresh.Board.CommandLine
import DashboardRefresh.Board.Dashboard
import DashboardRefresh.Board.Failure
import DashboardRefresh.Board.FileTree
import DashboardRefresh.Board.LogFilter
import DashboardRefresh.Board.Overlap
import DashboardRefresh.Board.Settings
import DashboardRefresh.Board.Ticker
import DashboardRefresh.Config.Dashboard
import DashboardRefresh.Config.Datum
import DashboardRefresh.Config.DatumError
import DashboardRefresh.Config.Fields
import DashboardRefresh.Config.Widget
import DashboardRefresh.Fetch.Batch
import DashboardRefresh.Fetch.Document
import DashboardRefresh.Fetch.Error
import DashboardRefresh.HostName.Composition
import DashboardRefresh.HostName.Direction
import DashboardRefresh.HostName.Ideographs
import DashboardRefresh.HostName.Joiner
import DashboardRefresh.HostName.Label
import DashboardRefresh.HostName.Letters
import DashboardRefresh.HostName.Mapping
import DashboardRefresh.HostName.Sequences
import DashboardRefresh.Http.Network
import DashboardRefresh.Http.Request
import DashboardRefresh.Json.Printer
import DashboardRefresh.Json.Reader
import DashboardRefresh.Json.Record
import DashboardRefresh.Json.Template
import DashboardRefresh.Json.Value
import DashboardRefresh.Main
import DashboardRefresh.Number.Binary64
import DashboardRefresh.Number.Shortest
import DashboardRefresh.Number.Word
import DashboardRefresh.Pool.Batch
import DashboardRefresh.Pool.Job
import DashboardRefresh.Pool.Schedule
import DashboardRefresh.Refresh.Policy
import DashboardRefresh.Refresh.State
import DashboardRefresh.Release.Entry
import DashboardRefresh.Release.Lookup
import DashboardRefresh.Release.Source
import DashboardRefresh.Release.Version
import DashboardRefresh.Text.Base64
import DashboardRefresh.Text.Category
import DashboardRefresh.Text.DecimalDigit
import DashboardRefresh.Text.Lowercase
import DashboardRefresh.Text.Named
import DashboardRefresh.Text.Pattern
import DashboardRefresh.Text.Quoted
import DashboardRefresh.Text.Range
import DashboardRefresh.Text.Reader
import DashboardRefresh.Text.Slice
import DashboardRefresh.Text.Split
import DashboardRefresh.Text.Utf8
import DashboardRefresh.Text.Whitespace
import DashboardRefresh.Time.CivilDate
import DashboardRefresh.Time.Clock
import DashboardRefresh.Time.Duration
import DashboardRefresh.Time.Instant
import DashboardRefresh.Time.Timestamp
import DashboardRefresh.Toml.Document
import DashboardRefresh.Toml.Scalar
import DashboardRefresh.Toml.Table
import DashboardRefresh.Toml.Text
import DashboardRefresh.Url.Basic
import DashboardRefresh.Url.Host
import DashboardRefresh.Url.Parser
import DashboardRefresh.Url.Percent
import DashboardRefresh.Url.Punycode
import DashboardRefresh.Url.Segments
import DashboardRefresh.Widget.Basic
import DashboardRefresh.Widget.Build
import DashboardRefresh.Widget.CalendarGrid
import DashboardRefresh.Widget.Fault
import DashboardRefresh.Widget.Leaf
import DashboardRefresh.Widget.Monitor
import DashboardRefresh.Widget.ReleaseList
import DashboardRefresh.Widget.Snapshot
import DashboardRefresh.Proofs.Pool.Accounting
import DashboardRefresh.Proofs.Pool.Progress
import DashboardRefresh.Proofs.Pool.Completion
import DashboardRefresh.Proofs.Pool.Timing
import DashboardRefresh.Proofs.Pool.Cancellation
import DashboardRefresh.Proofs.Refresh.History
import DashboardRefresh.Proofs.Fetch.Attempts
import DashboardRefresh.Proofs.Board.Building
import DashboardRefresh.Proofs.Widget.Reachable
import DashboardRefresh.Proofs.Widget.Storing
import DashboardRefresh.Proofs.Widget.Agreement
import DashboardRefresh.Proofs.Board.Runs
import DashboardRefresh.Proofs.Board.Agreement
import DashboardRefresh.Proofs.Fetch.Verdicts
import DashboardRefresh.Proofs.Time.CivilDates
import DashboardRefresh.Proofs.Widget.Verdicts
import DashboardRefresh.Proofs.Board.Reachable
import DashboardRefresh.Proofs.Board.UpdateCycle
import DashboardRefresh.Proofs.Refresh.Limits
import DashboardRefresh.Proofs.Widget.DueLeaves
import DashboardRefresh.Proofs.Board.Sweeps
import DashboardRefresh.Proofs.Board.Overlapping
import DashboardRefresh.Proofs.Board.Pacing
import DashboardRefresh.Proofs.Pool.Crashes
import DashboardRefresh.Proofs.Board.Ticking
import DashboardRefresh.Proofs.Board.Grouping
import DashboardRefresh.Proofs.Fetch.Sending
import DashboardRefresh.Proofs.Release.Requests
import DashboardRefresh.Proofs.Release.Tokens
import DashboardRefresh.Proofs.Pool.GreedySchedule
import DashboardRefresh.Proofs.Board.Validity
import DashboardRefresh.Proofs.Board.Numbering
import DashboardRefresh.Proofs.Board.Acceptance
import DashboardRefresh.Proofs.Widget.Censored
import DashboardRefresh.Proofs.Board.Secrecy
import DashboardRefresh.Proofs.Refresh.HourBoundaries
import DashboardRefresh.Proofs.Refresh.Room
import DashboardRefresh.Proofs.Widget.Arrivals
import DashboardRefresh.Proofs.Release.NewestFirst
import DashboardRefresh.Proofs.Widget.ReleaseUpdates
import DashboardRefresh.Proofs.Widget.SiteRecords
import DashboardRefresh.Proofs.Widget.MonitorUpdates
import DashboardRefresh.Proofs.Refresh.FixedIntervals
import DashboardRefresh.Proofs.Time.DurationTexts
import DashboardRefresh.Proofs.Release.EntryGrammar
import DashboardRefresh.Proofs.Release.EntryTexts
import DashboardRefresh.Proofs.Time.NextDays
import DashboardRefresh.Proofs.Widget.CalendarGrids
import DashboardRefresh.Proofs.Pool.BatchViews
import DashboardRefresh.Proofs.Url.PercentRoundTrip
import DashboardRefresh.Proofs.Url.WebUrls
import DashboardRefresh.Proofs.Url.AppendedSegments
import DashboardRefresh.Proofs.Url.NamedSegments
import DashboardRefresh.Proofs.Release.ApiUrls
import DashboardRefresh.Proofs.Release.RepositoryUrls
import DashboardRefresh.Proofs.Text.Trimming
import DashboardRefresh.Proofs.Fetch.Excerpts
import DashboardRefresh.Proofs.Text.SmallLetters
import DashboardRefresh.Proofs.Release.Versions
import DashboardRefresh.Proofs.Pool.FirstServed
import DashboardRefresh.Proofs.Widget.Waits
import DashboardRefresh.Proofs.Board.SlowSweeps
