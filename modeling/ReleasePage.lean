import ReleasePage.Cache.Record
import ReleasePage.Cache.Refresh
import ReleasePage.Cache.Store
import ReleasePage.Command.Help
import ReleasePage.Command.Invocation
import ReleasePage.Command.Report
import ReleasePage.Command.Run
import ReleasePage.Command.Task
import ReleasePage.Command.Trace
import ReleasePage.Command.Usage
import ReleasePage.Files.Device
import ReleasePage.Files.Listing
import ReleasePage.Files.Path
import ReleasePage.Files.Placement
import ReleasePage.Files.Volume
import ReleasePage.Issues.Issue
import ReleasePage.Issues.Notes
import ReleasePage.Issues.Walk
import ReleasePage.Json.Decoder
import ReleasePage.Json.Failure
import ReleasePage.Json.Literal
import ReleasePage.Json.Numeral
import ReleasePage.Json.Record
import ReleasePage.Json.Skip
import ReleasePage.Json.Tree
import ReleasePage.Log.Directive
import ReleasePage.Log.Event
import ReleasePage.Log.Filter
import ReleasePage.Log.Pattern
import ReleasePage.Main
import ReleasePage.Number.Double
import ReleasePage.Number.Duration
import ReleasePage.Number.Power
import ReleasePage.Number.Rounding
import ReleasePage.Number.Shortest
import ReleasePage.Page.Format
import ReleasePage.Page.Fragment
import ReleasePage.Page.Summary
import ReleasePage.Platform.Architecture
import ReleasePage.Platform.Classifier
import ReleasePage.Platform.Rule
import ReleasePage.Proofs.AssetMap
import ReleasePage.Proofs.AssetTable
import ReleasePage.Proofs.Check
import ReleasePage.Proofs.Discarded
import ReleasePage.Proofs.FileLimit
import ReleasePage.Proofs.FileStore
import ReleasePage.Proofs.Files.AllOrNothing
import ReleasePage.Proofs.Files.Directories
import ReleasePage.Proofs.Files.Path
import ReleasePage.Proofs.Files.Placement
import ReleasePage.Proofs.Files.Volume
import ReleasePage.Proofs.Json.Closed
import ReleasePage.Proofs.Json.Extent
import ReleasePage.Proofs.Json.Object
import ReleasePage.Proofs.Json.Reading
import ReleasePage.Proofs.Json.Scalar
import ReleasePage.Proofs.Json.Written
import ReleasePage.Proofs.Leniency
import ReleasePage.Proofs.LinkHeader
import ReleasePage.Proofs.NaturalOrder
import ReleasePage.Proofs.NextLink
import ReleasePage.Proofs.Normalization
import ReleasePage.Proofs.Page.Escape
import ReleasePage.Proofs.Page.Fragment
import ReleasePage.Proofs.Paging
import ReleasePage.Proofs.Pieces
import ReleasePage.Proofs.Policy
import ReleasePage.Proofs.Publishing
import ReleasePage.Proofs.Rearrangement
import ReleasePage.Proofs.Refresh
import ReleasePage.Proofs.Revalidation
import ReleasePage.Proofs.RoundTrip
import ReleasePage.Proofs.SharedStore
import ReleasePage.Proofs.Snapshot
import ReleasePage.Proofs.Survival
import ReleasePage.Proofs.Uploads
import ReleasePage.Proofs.Utf8
import ReleasePage.Release.Display
import ReleasePage.Release.Normalizer
import ReleasePage.Release.Order
import ReleasePage.Release.Record
import ReleasePage.Release.Size
import ReleasePage.Release.Snapshot
import ReleasePage.Settings.Escape
import ReleasePage.Settings.Layer
import ReleasePage.Settings.Load
import ReleasePage.Settings.Schema
import ReleasePage.Settings.Toml.Document
import ReleasePage.Settings.Toml.Moment
import ReleasePage.Settings.Toml.Numeral
import ReleasePage.Settings.Toml.Table
import ReleasePage.Settings.Toml.Text
import ReleasePage.Settings.Value
import ReleasePage.Settings.Variable
import ReleasePage.Text.Blank
import ReleasePage.Text.Bytes
import ReleasePage.Text.Canonical
import ReleasePage.Text.Case
import ReleasePage.Text.CodePoint
import ReleasePage.Text.CodeTable
import ReleasePage.Text.Composition
import ReleasePage.Text.Cut
import ReleasePage.Text.Letters
import ReleasePage.Text.Pieces
import ReleasePage.Text.Printable
import ReleasePage.Text.Quoted
import ReleasePage.Text.Ranges
import ReleasePage.Text.Utf8
import ReleasePage.Time.Civil
import ReleasePage.Time.Timestamp
import ReleasePage.Time.Zone
import ReleasePage.Time.ZoneTable
import ReleasePage.Web.Address
import ReleasePage.Web.Domain
import ReleasePage.Web.Domain.Direction
import ReleasePage.Web.Domain.Forms
import ReleasePage.Web.Domain.Joining
import ReleasePage.Web.Domain.Label
import ReleasePage.Web.Exchange
import ReleasePage.Web.FetchError
import ReleasePage.Web.Host
import ReleasePage.Web.Link
import ReleasePage.Web.Url
import ReleasePage.Web.Url.Authority
import ReleasePage.Web.Url.Path
import ReleasePage.Web.Url.Percent
import ReleasePage.Web.Wire
import ReleasePage.Proofs.NaturalKey
import ReleasePage.Proofs.Number.Rounding
import ReleasePage.Proofs.Size
import ReleasePage.Proofs.Json.Document
import ReleasePage.Proofs.Json.Meaning
import ReleasePage.Proofs.Json.Members
import ReleasePage.Proofs.RecordSchema
import ReleasePage.Proofs.Platform.LastToken
import ReleasePage.Proofs.Platform.RuleOrder
import ReleasePage.Proofs.Settings.Layering
import ReleasePage.Proofs.Settings.VariableName
import ReleasePage.Proofs.Settings.Combination
