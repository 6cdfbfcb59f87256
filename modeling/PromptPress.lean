import PromptPress.Alert.Basic
import PromptPress.Alert.Publisher
import PromptPress.Alert.Script
import PromptPress.Alert.Webhook
import PromptPress.Archive.Basic
import PromptPress.Archive.Import
import PromptPress.Archive.Layout
import PromptPress.Archive.MediaType
import PromptPress.Archive.Required
import PromptPress.Archive.Title
import PromptPress.Archive.Zip
import PromptPress.Base64
import PromptPress.Build
import PromptPress.Build.Form
import PromptPress.Catalog.Form
import PromptPress.Catalog.Index
import PromptPress.Catalog.Rows
import PromptPress.Catalog.Search
import PromptPress.Command.Arguments
import PromptPress.Command.Basic
import PromptPress.Command.Run
import PromptPress.Cron.Expression
import PromptPress.Cron.Next
import PromptPress.Database
import PromptPress.Delivery
import PromptPress.Digest.Md5
import PromptPress.Environment
import PromptPress.Event.Bus
import PromptPress.Event.Form
import PromptPress.Event.Payload
import PromptPress.Event.Script
import PromptPress.FileTree
import PromptPress.Interpreter
import PromptPress.Jobs.Basic
import PromptPress.Jobs.Form
import PromptPress.Jobs.Scheduler
import PromptPress.Jobs.Station
import PromptPress.Jobs.Store
import PromptPress.Jobs.Sweep
import PromptPress.Json.Encoding
import PromptPress.Json.Fields
import PromptPress.Json.Parser
import PromptPress.Json.Printer
import PromptPress.Json.Raw
import PromptPress.Json.Value
import PromptPress.LogLevel
import PromptPress.Main
import PromptPress.Metrics.Basic
import PromptPress.Metrics.Form
import PromptPress.Metrics.Report
import PromptPress.Metrics.Snapshot
import PromptPress.Npm.Inclusion
import PromptPress.Npm.Range
import PromptPress.Npm.Version
import PromptPress.Number.Binary64
import PromptPress.Number.Quantity
import PromptPress.Number.Reading
import PromptPress.Number.Shortest
import PromptPress.Patch
import PromptPress.Patch.Form
import PromptPress.Path.Relative
import PromptPress.Path.Slug
import PromptPress.Pipeline
import PromptPress.Preview
import PromptPress.Prompt.Basic
import PromptPress.Prompt.Checked
import PromptPress.Prompt.Document
import PromptPress.Prompt.Fence
import PromptPress.Prompt.Fields
import PromptPress.Prompt.Markdown
import PromptPress.Prompt.PackageLine
import PromptPress.Prompt.Reading
import PromptPress.Prompt.Section
import PromptPress.Proofs.Archive.Call
import PromptPress.Proofs.Archive.Course
import PromptPress.Proofs.Archive.Folder
import PromptPress.Proofs.Archive.Import
import PromptPress.Proofs.Archive.Instance
import PromptPress.Proofs.Archive.Keys
import PromptPress.Proofs.Archive.Required
import PromptPress.Proofs.Archive.Wrapping
import PromptPress.Proofs.Base64
import PromptPress.Proofs.Build.Confinement
import PromptPress.Proofs.Build.Overwriting
import PromptPress.Proofs.Build.Writing
import PromptPress.Proofs.Catalog.Finding
import PromptPress.Proofs.Catalog.Loading
import PromptPress.Proofs.Catalog.Ranking
import PromptPress.Proofs.Catalog.Recording
import PromptPress.Proofs.Catalog.Refreshing
import PromptPress.Proofs.Catalog.Running
import PromptPress.Proofs.Command.Report
import PromptPress.Proofs.Delivery
import PromptPress.Proofs.Disposal
import PromptPress.Proofs.Event.Bus
import PromptPress.Proofs.Event.Emissions
import PromptPress.Proofs.Event.Hall
import PromptPress.Proofs.Event.Once
import PromptPress.Proofs.FileTree
import PromptPress.Proofs.Jobs.Agreement
import PromptPress.Proofs.Jobs.Draining
import PromptPress.Proofs.Jobs.Failure
import PromptPress.Proofs.Jobs.Interleaving
import PromptPress.Proofs.Jobs.Listing
import PromptPress.Proofs.Jobs.Overlapping
import PromptPress.Proofs.Jobs.Requeueing
import PromptPress.Proofs.Jobs.Rota
import PromptPress.Proofs.Jobs.Table
import PromptPress.Proofs.Json.Digits
import PromptPress.Proofs.Json.Numerals
import PromptPress.Proofs.Json.Readable
import PromptPress.Proofs.Json.Reading
import PromptPress.Proofs.Json.Values
import PromptPress.Proofs.Json.Writing
import PromptPress.Proofs.Metrics.Collector
import PromptPress.Proofs.Metrics.Window
import PromptPress.Proofs.Npm.Acceptance
import PromptPress.Proofs.Npm.Inclusion
import PromptPress.Proofs.Npm.Precedence
import PromptPress.Proofs.Number.Average
import PromptPress.Proofs.Number.Bounds
import PromptPress.Proofs.Number.Rounding
import PromptPress.Proofs.Number.Shortest
import PromptPress.Proofs.Order
import PromptPress.Proofs.Patch.Consulting
import PromptPress.Proofs.Patch.Distinct
import PromptPress.Proofs.Patch.Reconciliation
import PromptPress.Proofs.Patch.Settling
import PromptPress.Proofs.Path.Climbing
import PromptPress.Proofs.Path.KeySegment
import PromptPress.Proofs.Path.Relative
import PromptPress.Proofs.Path.Slug
import PromptPress.Proofs.Path.Stack
import PromptPress.Proofs.Pipeline.Handover
import PromptPress.Proofs.Pipeline.Monitoring
import PromptPress.Proofs.Pipeline.Previewing
import PromptPress.Proofs.Pipeline.RoundTrip
import PromptPress.Proofs.Pipeline.Serving
import PromptPress.Proofs.Preview.Page
import PromptPress.Proofs.Prompt.Aliases
import PromptPress.Proofs.Prompt.Checked
import PromptPress.Proofs.Prompt.ComponentCode
import PromptPress.Proofs.Prompt.Cutting
import PromptPress.Proofs.Prompt.Document
import PromptPress.Proofs.Prompt.Failing
import PromptPress.Proofs.Prompt.Fence
import PromptPress.Proofs.Prompt.FenceInfo
import PromptPress.Proofs.Prompt.Heading
import PromptPress.Proofs.Prompt.Outline
import PromptPress.Proofs.Prompt.PackageLine
import PromptPress.Proofs.Prompt.Reconstruction
import PromptPress.Proofs.Prompt.Regions
import PromptPress.Proofs.Prompt.Remarks
import PromptPress.Proofs.Prompt.Rereading
import PromptPress.Proofs.Prompt.Slugs
import PromptPress.Proofs.Prompt.Spellings
import PromptPress.Proofs.Schema.Declarations
import PromptPress.Proofs.Schema.Defaults
import PromptPress.Proofs.Schema.Strictness
import PromptPress.Proofs.Settings.Complaints
import PromptPress.Proofs.Slice
import PromptPress.Proofs.Text.Decoding
import PromptPress.Proofs.Text.Lower
import PromptPress.Proofs.Time.Millis
import PromptPress.Record
import PromptPress.Schema
import PromptPress.Service
import PromptPress.Settings
import PromptPress.Settings.Form
import PromptPress.Slice
import PromptPress.Storage.Connection
import PromptPress.Storage.Objects
import PromptPress.Text.Blank
import PromptPress.Text.CaseTable
import PromptPress.Text.Decoding
import PromptPress.Text.Digit
import PromptPress.Text.Lower
import PromptPress.Text.Pieces
import PromptPress.Text.Quoted
import PromptPress.Text.Ranges
import PromptPress.Text.Raw
import PromptPress.Text.VisibleTable
import PromptPress.Text.Word
import PromptPress.Text.WordTable
import PromptPress.Time.Calendar
import PromptPress.Time.Moment
import PromptPress.Time.Zone
import PromptPress.Yaml.Document
import PromptPress.Yaml.Flow
import PromptPress.Yaml.Scalar
import PromptPress.Yaml.Value
