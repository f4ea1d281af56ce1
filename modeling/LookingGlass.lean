import LookingGlass.Collector.Coding
import LookingGlass.Collector.Fault
import LookingGlass.Collector.Load
import LookingGlass.Collector.Reply
import LookingGlass.Collector.Status
import LookingGlass.CommandLine.Basic
import LookingGlass.CommandLine.Help
import LookingGlass.CommandLine.Reading
import LookingGlass.Compression.Bits
import LookingGlass.Compression.Checksum
import LookingGlass.Compression.Deflate
import LookingGlass.Compression.Envelope
import LookingGlass.Compression.PrefixCode
import LookingGlass.Cookie.Attribute
import LookingGlass.Cookie.Date
import LookingGlass.Cookie.Jar
import LookingGlass.Cookie.Offer
import LookingGlass.Cookie.Origin
import LookingGlass.Directory.Basic
import LookingGlass.Directory.Options
import LookingGlass.Directory.Payload
import LookingGlass.Form.Basic
import LookingGlass.Json.Encoding
import LookingGlass.Json.Reader
import LookingGlass.Json.Table
import LookingGlass.Json.Value
import LookingGlass.Log
import LookingGlass.Main
import LookingGlass.Network.Address
import LookingGlass.Network.Block
import LookingGlass.Number.Binary64
import LookingGlass.Number.Integer
import LookingGlass.Number.Shortest
import LookingGlass.Page.Lookup
import LookingGlass.Page.Markup
import LookingGlass.Proofs.Collector.Answer
import LookingGlass.Proofs.Collector.Loading
import LookingGlass.Proofs.Collector.Session
import LookingGlass.Proofs.Directory.Groups
import LookingGlass.Proofs.Directory.Instances
import LookingGlass.Proofs.Directory.Order
import LookingGlass.Proofs.Directory.RouterChoices
import LookingGlass.Proofs.Directory.Routers
import LookingGlass.Proofs.Form.Choice
import LookingGlass.Proofs.Form.Draft
import LookingGlass.Proofs.Form.Resubmission
import LookingGlass.Proofs.Json.Quoted
import LookingGlass.Proofs.Json.Table
import LookingGlass.Proofs.Json.Update
import LookingGlass.Proofs.Network.DottedQuad
import LookingGlass.Proofs.Number.Numeral
import LookingGlass.Proofs.Outcome
import LookingGlass.Proofs.Page.Controls
import LookingGlass.Proofs.Page.Lookup
import LookingGlass.Proofs.Page.Reader
import LookingGlass.Proofs.Page.Reading
import LookingGlass.Proofs.Page.Rendering
import LookingGlass.Proofs.Page.Selection
import LookingGlass.Proofs.Page.View
import LookingGlass.Proofs.Page.Writable
import LookingGlass.Proofs.Query.Canonical
import LookingGlass.Proofs.Query.Link
import LookingGlass.Proofs.Query.Submission
import LookingGlass.Proofs.Query.Wide
import LookingGlass.Proofs.RouteDistinguisher.Fault
import LookingGlass.Proofs.RouteDistinguisher.Notation
import LookingGlass.Proofs.RouteDistinguisher.RoundTrip
import LookingGlass.Proofs.Settings.History
import LookingGlass.Proofs.Settings.LastSuccess
import LookingGlass.Proofs.Text.Cut
import LookingGlass.Proofs.Text.Fields
import LookingGlass.Proofs.Text.Markup
import LookingGlass.Proofs.Text.Octets
import LookingGlass.Proofs.Text.Percent
import LookingGlass.Proofs.Text.Quoted
import LookingGlass.Proofs.Text.Spelling
import LookingGlass.Proofs.Text.Utf8
import LookingGlass.Proofs.Text.WellFormed
import LookingGlass.Proofs.Text.Wide
import LookingGlass.Proofs.Tool.Links
import LookingGlass.Proofs.Tool.Listing
import LookingGlass.Proofs.Tool.Start
import LookingGlass.Proofs.Web.Agreement
import LookingGlass.Proofs.Web.Answer
import LookingGlass.Proofs.Web.Location
import LookingGlass.Proofs.Web.Lookup
import LookingGlass.Proofs.Web.Message
import LookingGlass.Proofs.Web.Refusal
import LookingGlass.Proofs.Web.Route
import LookingGlass.Proofs.Web.Search
import LookingGlass.Proofs.Wording
import LookingGlass.Query.Basic
import LookingGlass.Query.Link
import LookingGlass.Query.Wide
import LookingGlass.RouteDistinguisher
import LookingGlass.Settings
import LookingGlass.Text.Ascii
import LookingGlass.Text.CombiningClass
import LookingGlass.Text.Composition
import LookingGlass.Text.Cut
import LookingGlass.Text.Digit
import LookingGlass.Text.Direction
import LookingGlass.Text.Fields
import LookingGlass.Text.Joining
import LookingGlass.Text.LetterCase
import LookingGlass.Text.Lines
import LookingGlass.Text.Mark
import LookingGlass.Text.Markup
import LookingGlass.Text.Octets
import LookingGlass.Text.Percent
import LookingGlass.Text.Printable
import LookingGlass.Text.Punycode
import LookingGlass.Text.Quoted
import LookingGlass.Text.Ranges
import LookingGlass.Text.Script
import LookingGlass.Text.Utf8
import LookingGlass.Text.Wide
import LookingGlass.Tool.Commands
import LookingGlass.Tool.File
import LookingGlass.Tool.Flags
import LookingGlass.Tool.Lookup
import LookingGlass.Tool.Server
import LookingGlass.Tool.Start
import LookingGlass.Url.Basic
import LookingGlass.Url.Bracket
import LookingGlass.Url.Escape
import LookingGlass.Url.Host
import LookingGlass.Url.Label
import LookingGlass.Url.LabelLetter
import LookingGlass.Url.Path
import LookingGlass.Url.Reference
import LookingGlass.Web.Application
import LookingGlass.Web.Location
import LookingGlass.Web.Message
import LookingGlass.Web.Notice
import LookingGlass.Web.Route
