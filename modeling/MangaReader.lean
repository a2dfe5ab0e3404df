import MangaReader.Arguments.Grammar
import MangaReader.Arguments.Level
import MangaReader.Arguments.Line
import MangaReader.Backend.Body
import MangaReader.Backend.Call
import MangaReader.Backend.Certificate
import MangaReader.Backend.Client
import MangaReader.Backend.Endpoint
import MangaReader.Backend.Failure
import MangaReader.Backend.Record
import MangaReader.Backend.Script
import MangaReader.Chapter.Form
import MangaReader.Chapter.Index
import MangaReader.Command.Configure
import MangaReader.Command.Error
import MangaReader.Command.Grammar
import MangaReader.Command.History
import MangaReader.Command.Options
import MangaReader.Command.Reading
import MangaReader.Command.Request
import MangaReader.Command.Run
import MangaReader.Command.Series
import MangaReader.Command.Session
import MangaReader.Command.Shows
import MangaReader.Decimal.Shortest
import MangaReader.Feed.Framing
import MangaReader.Feed.PageEvent
import MangaReader.Feed.PageFeed
import MangaReader.Files
import MangaReader.Json.Cursor
import MangaReader.Json.Fault
import MangaReader.Json.Form
import MangaReader.Json.Literal
import MangaReader.Json.Number
import MangaReader.Json.Print
import MangaReader.Json.Tree
import MangaReader.Json.Value
import MangaReader.Library.AssetPaths
import MangaReader.Library.Form
import MangaReader.Library.Library
import MangaReader.Library.OfRecord
import MangaReader.Library.Resume
import MangaReader.Library.Series
import MangaReader.Main
import MangaReader.Output.Color
import MangaReader.Output.Outline
import MangaReader.Output.Report
import MangaReader.Output.Scalar
import MangaReader.Output.Table
import MangaReader.Output.Yaml
import MangaReader.Reading.Error
import MangaReader.Reading.Event
import MangaReader.Reading.Reader
import MangaReader.Reading.Schedule
import MangaReader.Reading.Settings
import MangaReader.Settings.Basic
import MangaReader.Settings.Datum
import MangaReader.Settings.Effective
import MangaReader.Settings.Environment
import MangaReader.Settings.Error
import MangaReader.Settings.Key
import MangaReader.Settings.Machine
import MangaReader.Settings.Named
import MangaReader.Settings.OfDatum
import MangaReader.Settings.Shown
import MangaReader.Settings.Store
import MangaReader.Text.Ascii
import MangaReader.Text.Blank
import MangaReader.Text.Hidden
import MangaReader.Text.Quoted
import MangaReader.Text.Replace
import MangaReader.Text.Utf8
import MangaReader.Text.Whole
import MangaReader.Text.Width
import MangaReader.Time.Civil
import MangaReader.Time.Form
import MangaReader.Time.Instant
import MangaReader.Toml.Document
import MangaReader.Toml.Moment
import MangaReader.Toml.Number
import MangaReader.Toml.Section
import MangaReader.Toml.Table
import MangaReader.Toml.Text
import MangaReader.Toml.Value
import MangaReader.Url.Basic
import MangaReader.Url.Fault
import MangaReader.Url.Form
import MangaReader.Url.Host
import MangaReader.Url.Parse
import MangaReader.Url.Percent
import MangaReader.Url.Punycode
import MangaReader.Viewer.Run
import MangaReader.Viewer.Surface
import MangaReader.Viewer.Viewer
import MangaReader.Proofs.Chapter.Index
import MangaReader.Proofs.Chapter.First
import MangaReader.Proofs.Chapter.Answer
import MangaReader.Proofs.Chapter.Lookup
import MangaReader.Proofs.Chapter.Groups
import MangaReader.Proofs.Json.Restored
import MangaReader.Proofs.Chapter.RoundTrip
import MangaReader.Proofs.Library.Resume
import MangaReader.Proofs.Viewer.Effect
import MangaReader.Proofs.Viewer.Isolation
import MangaReader.Proofs.Viewer.Placement
import MangaReader.Proofs.Viewer.Coupling
import MangaReader.Proofs.Viewer.Tickets
import MangaReader.Proofs.Viewer.Standing
import MangaReader.Proofs.Viewer.Neighbour
import MangaReader.Proofs.Viewer.Refusal
import MangaReader.Proofs.Viewer.Reload
import MangaReader.Proofs.Viewer.Abreast
import MangaReader.Proofs.Viewer.Life
import MangaReader.Proofs.Feed.Framing
import MangaReader.Proofs.Feed.PageFeed
import MangaReader.Proofs.Feed.Delivery
import MangaReader.Proofs.Reading.Effect
import MangaReader.Proofs.Reading.Moves
import MangaReader.Proofs.Reading.Coherent
import MangaReader.Proofs.Reading.Results
import MangaReader.Proofs.Reading.Course
import MangaReader.Proofs.Reading.Opening
import MangaReader.Proofs.Reading.Chapter
import MangaReader.Proofs.Reading.Published
import MangaReader.Proofs.Reading.Loading
import MangaReader.Proofs.Reading.Beside
import MangaReader.Proofs.Reading.LastRead
import MangaReader.Proofs.Reading.Verdict
import MangaReader.Proofs.Reading.Awaited
import MangaReader.Proofs.Reading.Browsing
import MangaReader.Proofs.Feed.Format
import MangaReader.Proofs.Feed.Written
import MangaReader.Proofs.Reading.Order
import MangaReader.Proofs.Toml.Document
import MangaReader.Proofs.Toml.Section
import MangaReader.Proofs.Command.Assign
import MangaReader.Proofs.Command.Reading
import MangaReader.Proofs.Settings.RoundTrip
import MangaReader.Proofs.Settings.Value
import MangaReader.Proofs.Backend.Agree
import MangaReader.Proofs.Feed.Message
import MangaReader.Proofs.Command.Effective
import MangaReader.Proofs.Command.Inquiry
import MangaReader.Proofs.Backend.Asking
import MangaReader.Proofs.Command.Watching
import MangaReader.Proofs.Library.AssetPaths
import MangaReader.Proofs.Backend.Endpoint
import MangaReader.Proofs.Backend.Lenient
import MangaReader.Proofs.Time.Instant
