import Compositor.Assets.Base64
import Compositor.Assets.Download
import Compositor.Assets.Embedded
import Compositor.Assets.Error
import Compositor.Assets.Staging
import Compositor.Curve.Basic
import Compositor.Curve.Expression
import Compositor.Datum.Basic
import Compositor.Datum.Merge
import Compositor.Datum.Reader
import Compositor.Datum.Record
import Compositor.Double.Basic
import Compositor.Double.Text
import Compositor.Encoder.Backend
import Compositor.Encoder.Engine
import Compositor.Encoder.Error
import Compositor.Encoder.Format
import Compositor.Encoder.Listing
import Compositor.Encoder.Negotiation
import Compositor.Files.Path
import Compositor.Files.Tree
import Compositor.Filter.Graph
import Compositor.Filter.Label
import Compositor.Filter.Quoting
import Compositor.Filter.Subtitles
import Compositor.Http.MediaType
import Compositor.Http.Message
import Compositor.Http.PathLabel
import Compositor.Http.Query
import Compositor.Http.Route
import Compositor.Http.Site
import Compositor.Job.Calls
import Compositor.Job.Crew
import Compositor.Job.Format
import Compositor.Job.Record
import Compositor.Job.Service
import Compositor.Job.Status
import Compositor.Job.Store
import Compositor.Json.Number
import Compositor.Json.Reader
import Compositor.Json.Token
import Compositor.Json.Writer
import Compositor.Metric.Basic
import Compositor.Metric.Exposition
import Compositor.Program.Arguments
import Compositor.Program.Basic
import Compositor.Program.Layers
import Compositor.Proofs.Assets.Base64
import Compositor.Proofs.Assets.Downloads
import Compositor.Proofs.Assets.Engines
import Compositor.Proofs.Assets.Extensions
import Compositor.Proofs.Assets.Naming
import Compositor.Proofs.Assets.Payloads
import Compositor.Proofs.Assets.Placing
import Compositor.Proofs.Curve.Formulas
import Compositor.Proofs.Curve.Interpolation
import Compositor.Proofs.Curve.Lines
import Compositor.Proofs.Curve.Sampling
import Compositor.Proofs.Curve.Steps
import Compositor.Proofs.Datum.Members
import Compositor.Proofs.Datum.Presentation
import Compositor.Proofs.Datum.Records
import Compositor.Proofs.Double.Arithmetic
import Compositor.Proofs.Double.Numerals
import Compositor.Proofs.Double.Places
import Compositor.Proofs.Double.Powers
import Compositor.Proofs.Double.Rounding
import Compositor.Proofs.Encoder.Choosing
import Compositor.Proofs.Encoder.Probing
import Compositor.Proofs.Encoder.Rows
import Compositor.Proofs.Files.Writing
import Compositor.Proofs.Filter.Injecting
import Compositor.Proofs.Filter.Labels
import Compositor.Proofs.Filter.Options
import Compositor.Proofs.Filter.Reading
import Compositor.Proofs.Filter.Reinjecting
import Compositor.Proofs.Filter.Renaming
import Compositor.Proofs.Filter.Resuming
import Compositor.Proofs.Filter.Undoing
import Compositor.Proofs.Filter.Walks
import Compositor.Proofs.Filter.Wiring
import Compositor.Proofs.Http.Masking
import Compositor.Proofs.Job.Cleaning
import Compositor.Proofs.Job.Counting
import Compositor.Proofs.Job.Directories
import Compositor.Proofs.Job.Ending
import Compositor.Proofs.Job.Histories
import Compositor.Proofs.Job.Listing
import Compositor.Proofs.Job.Moves
import Compositor.Proofs.Job.Reports
import Compositor.Proofs.Job.Runs
import Compositor.Proofs.Job.Store
import Compositor.Proofs.Json.Numbers
import Compositor.Proofs.Json.RoundTrip
import Compositor.Proofs.Json.Tokens
import Compositor.Proofs.Program.Captions
import Compositor.Proofs.Program.CommandLine
import Compositor.Proofs.Program.Drafts
import Compositor.Proofs.Program.Escaping
import Compositor.Proofs.Program.Filters
import Compositor.Proofs.Program.Hidden
import Compositor.Proofs.Program.Labels
import Compositor.Proofs.Program.Panning
import Compositor.Proofs.Program.Quotes
import Compositor.Proofs.Program.Reading
import Compositor.Proofs.Program.Shown
import Compositor.Proofs.Program.Spelling
import Compositor.Proofs.Program.Stacking
import Compositor.Proofs.Program.Streams
import Compositor.Proofs.Scene.Assigning
import Compositor.Proofs.Scene.Backdrops
import Compositor.Proofs.Scene.Finite
import Compositor.Proofs.Scene.Presentation
import Compositor.Proofs.Scene.Ranges
import Compositor.Proofs.Scene.RoundTrip
import Compositor.Proofs.Text.Lines
import Compositor.Proofs.Traffic.Accounts
import Compositor.Proofs.Traffic.Batches
import Compositor.Proofs.Traffic.Courses
import Compositor.Proofs.Traffic.Delays
import Compositor.Proofs.Traffic.Lineup
import Compositor.Proofs.Traffic.Moves
import Compositor.Proofs.Traffic.Outlook
import Compositor.Proofs.Traffic.Retrying
import Compositor.Proofs.Traffic.Schedules
import Compositor.Proofs.Traffic.Turns
import Compositor.Proofs.Traffic.Window
import Compositor.Random.ChaCha
import Compositor.Rehearsal.Binary
import Compositor.Rehearsal.Crew
import Compositor.Rehearsal.Engine
import Compositor.Rehearsal.Samples
import Compositor.Rehearsal.Stager
import Compositor.Scene.Basic
import Compositor.Scene.Format
import Compositor.Scene.Sources
import Compositor.Scene.Validation
import Compositor.Settings.Basic
import Compositor.Settings.Engine
import Compositor.Settings.Environment
import Compositor.Settings.Fetch
import Compositor.Settings.Jobs
import Compositor.Settings.Render
import Compositor.Settings.Variable
import Compositor.Text.Blank
import Compositor.Text.Hex
import Compositor.Text.Mark
import Compositor.Text.NormalForm
import Compositor.Text.Quoted
import Compositor.Text.Shape
import Compositor.Text.Split
import Compositor.Text.Utf8
import Compositor.Toml.Reader
import Compositor.Toml.Scan
import Compositor.Toml.Table
import Compositor.Traffic.Backoff
import Compositor.Traffic.Clock
import Compositor.Traffic.Format
import Compositor.Traffic.Pool
import Compositor.Traffic.RateLimit
import Compositor.Traffic.Timetable
import Compositor.Url.Address
import Compositor.Url.Basic
import Compositor.Url.Host
import Compositor.Url.Name
import Compositor.Url.Name.Direction
import Compositor.Url.Name.Joiner
import Compositor.Url.Name.Mapping
import Compositor.Url.Path
import Compositor.Url.Percent
import Compositor.Url.Punycode
