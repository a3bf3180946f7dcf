import MetricWatch.Api.Client
import MetricWatch.Api.Routes
import MetricWatch.Api.Source
import MetricWatch.Cluster.Metrics
import MetricWatch.Cluster.Names
import MetricWatch.Cluster.Nodes
import MetricWatch.Daemon.Basic
import MetricWatch.Daemon.EventLog
import MetricWatch.Daemon.Run
import MetricWatch.Error
import MetricWatch.Http.Client
import MetricWatch.Http.Failure
import MetricWatch.Http.Message
import MetricWatch.Http.Redirect
import MetricWatch.Http.Status
import MetricWatch.Journal.Basic
import MetricWatch.Journal.Filter
import MetricWatch.Json.Ascii
import MetricWatch.Json.Fault
import MetricWatch.Json.Form
import MetricWatch.Json.Reading
import MetricWatch.Json.Scanner
import MetricWatch.Json.Shape
import MetricWatch.Json.Tree
import MetricWatch.Json.Value
import MetricWatch.Json.Writing
import MetricWatch.Main
import MetricWatch.Metric.Basic
import MetricWatch.Metric.Kind
import MetricWatch.Metric.Payload
import MetricWatch.Number.Binary64
import MetricWatch.Number.Numeral
import MetricWatch.Number.Shortest
import MetricWatch.Poller.Basic
import MetricWatch.Proofs.Api.Addresses
import MetricWatch.Proofs.Api.Credentials
import MetricWatch.Proofs.Api.NamesPaths
import MetricWatch.Proofs.Api.Refreshes
import MetricWatch.Proofs.Api.Sessions
import MetricWatch.Proofs.Api.Stories
import MetricWatch.Proofs.Api.Traffic
import MetricWatch.Proofs.Channels
import MetricWatch.Proofs.Cluster.Flattening
import MetricWatch.Proofs.Cluster.Sections
import MetricWatch.Proofs.Cluster.Texts
import MetricWatch.Proofs.Counting
import MetricWatch.Proofs.Http.Answers
import MetricWatch.Proofs.Http.Attempts
import MetricWatch.Proofs.Http.ListRounds
import MetricWatch.Proofs.Http.Redirects
import MetricWatch.Proofs.Http.Retries
import MetricWatch.Proofs.Http.TimeLimits
import MetricWatch.Proofs.Json.Alike.Basic
import MetricWatch.Proofs.Json.Alike.Forms
import MetricWatch.Proofs.Json.Alike.Records
import MetricWatch.Proofs.Json.Depth
import MetricWatch.Proofs.Json.Objects
import MetricWatch.Proofs.Json.Omissions
import MetricWatch.Proofs.Json.Parts
import MetricWatch.Proofs.Json.Printing
import MetricWatch.Proofs.Json.RoundTrip
import MetricWatch.Proofs.Json.Slots
import MetricWatch.Proofs.Json.Texts
import MetricWatch.Proofs.Json.Unknown
import MetricWatch.Proofs.Maps
import MetricWatch.Proofs.Metric.RoundTrip
import MetricWatch.Proofs.Numbers
import MetricWatch.Proofs.Polling.Alert
import MetricWatch.Proofs.Polling.Course
import MetricWatch.Proofs.Polling.Drift
import MetricWatch.Proofs.Polling.TaskState
import MetricWatch.Proofs.Polling.Independence
import MetricWatch.Proofs.Polling.Ledger
import MetricWatch.Proofs.Polling.Lifecycle
import MetricWatch.Proofs.Polling.Load
import MetricWatch.Proofs.Polling.NamesCalls
import MetricWatch.Proofs.Polling.NamesTicks
import MetricWatch.Proofs.Polling.Outstanding
import MetricWatch.Proofs.Polling.Pace
import MetricWatch.Proofs.Polling.DriftInduction
import MetricWatch.Proofs.Polling.Queue
import MetricWatch.Proofs.Polling.Quiescence
import MetricWatch.Proofs.Polling.LoopState
import MetricWatch.Proofs.Polling.Running
import MetricWatch.Proofs.Polling.Separation
import MetricWatch.Proofs.Polling.Solo
import MetricWatch.Proofs.Polling.Sound
import MetricWatch.Proofs.Polling.Turns
import MetricWatch.Proofs.Polling.Shutdown
import MetricWatch.Proofs.Registrations
import MetricWatch.Proofs.Rounds.Abandonment
import MetricWatch.Proofs.Rounds.AtRest
import MetricWatch.Proofs.Rounds.Callers
import MetricWatch.Proofs.Rounds.Coalescing
import MetricWatch.Proofs.Rounds.Listings
import MetricWatch.Proofs.Rounds.Move
import MetricWatch.Proofs.Rounds.Nodes
import MetricWatch.Proofs.Rounds.Orderly
import MetricWatch.Proofs.Rounds.Phase
import MetricWatch.Proofs.Rounds.Reach
import MetricWatch.Proofs.Rounds.Record
import MetricWatch.Proofs.Rounds.Release
import MetricWatch.Proofs.Rounds.Repeats
import MetricWatch.Proofs.Rounds.Requests
import MetricWatch.Proofs.Rounds.Snapshot
import MetricWatch.Proofs.Rounds.Subscribers
import MetricWatch.Proofs.Rounds.Unheard
import MetricWatch.Proofs.Rounds.Work
import MetricWatch.Proofs.Settings.Layers
import MetricWatch.Proofs.Settings.Probing
import MetricWatch.Proofs.Settings.Unread
import MetricWatch.Proofs.Text.Base64
import MetricWatch.Proofs.Text.ByteOrder
import MetricWatch.Proofs.Text.LetterCase
import MetricWatch.Proofs.Text.NameTables
import MetricWatch.Proofs.Text.Percent
import MetricWatch.Proofs.Text.Unsigned
import MetricWatch.Proofs.Text.Utf8
import MetricWatch.Proofs.Url.Below
import MetricWatch.Proofs.Url.Dots
import MetricWatch.Proofs.Views
import MetricWatch.Proofs.Wanted
import MetricWatch.Proofs.Watches
import MetricWatch.Settings.Basic
import MetricWatch.Settings.Dotenv
import MetricWatch.Settings.Environment
import MetricWatch.Settings.Files
import MetricWatch.Settings.Loader
import MetricWatch.Store.Basic
import MetricWatch.Store.Channel
import MetricWatch.Store.Slot
import MetricWatch.Text.Base64
import MetricWatch.Text.Blank
import MetricWatch.Text.NameTable
import MetricWatch.Text.Parts
import MetricWatch.Text.Percent
import MetricWatch.Text.Quoted
import MetricWatch.Text.Unprintable
import MetricWatch.Text.Unsigned
import MetricWatch.Text.Utf8
import MetricWatch.Time.Calendar
import MetricWatch.Time.Duration
import MetricWatch.Timeline.Basic
import MetricWatch.Timeline.Polling
import MetricWatch.Timeline.Run
import MetricWatch.Timeline.Script
import MetricWatch.Timeline.Source
import MetricWatch.Timeline.Step
import MetricWatch.Toml.Document
import MetricWatch.Toml.Moment
import MetricWatch.Toml.Scalar
import MetricWatch.Toml.Sign
import MetricWatch.Toml.Table
import MetricWatch.Toml.Token
import MetricWatch.Url.Basic
import MetricWatch.Url.Encoding
import MetricWatch.Url.Host
import MetricWatch.Watch.Registrations
import MetricWatch.Watch.Session
import MetricWatch.Watch.Watches
import MetricWatch.Proofs.Settings.Partial
