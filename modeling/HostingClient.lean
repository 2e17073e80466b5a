import HostingClient.Client.Basic
import HostingClient.Client.Catalogue
import HostingClient.Client.Endpoint
import HostingClient.Client.Error
import HostingClient.Client.Operation
import HostingClient.Codec.Base64
import HostingClient.Codec.Percent
import HostingClient.Dict
import HostingClient.Failure
import HostingClient.Http.Message
import HostingClient.Http.Status
import HostingClient.Json.Basic
import HostingClient.Json.Decoder
import HostingClient.Json.Leaf
import HostingClient.Json.Outline
import HostingClient.Json.Printer
import HostingClient.Json.Reader
import HostingClient.Json.Record
import HostingClient.Log.Filter
import HostingClient.Log.Level
import HostingClient.Log.Output
import HostingClient.Log.Pattern
import HostingClient.Notification
import HostingClient.Number.Binary64
import HostingClient.Number.Digit
import HostingClient.Number.Real
import HostingClient.Number.Shortest
import HostingClient.Proofs.Client.Below
import HostingClient.Proofs.Client.Call
import HostingClient.Proofs.Client.Classification
import HostingClient.Proofs.Client.Confinement
import HostingClient.Proofs.Client.Delivery
import HostingClient.Proofs.Client.Gate
import HostingClient.Proofs.Client.Identifiers
import HostingClient.Proofs.Client.Listing
import HostingClient.Proofs.Client.Login
import HostingClient.Proofs.Client.Presentation
import HostingClient.Proofs.Client.Refresh
import HostingClient.Proofs.Client.Reports
import HostingClient.Proofs.Client.Request
import HostingClient.Proofs.Client.RequestLine
import HostingClient.Proofs.Client.Revocation
import HostingClient.Proofs.Codec.Base64
import HostingClient.Proofs.Codec.Percent
import HostingClient.Proofs.Json.Accepted
import HostingClient.Proofs.Json.Faultless
import HostingClient.Proofs.Json.FreeForm
import HostingClient.Proofs.Json.Kept
import HostingClient.Proofs.Json.Leaf
import HostingClient.Proofs.Json.Literal
import HostingClient.Proofs.Json.Member
import HostingClient.Proofs.Json.Object
import HostingClient.Proofs.Json.Rearranged
import HostingClient.Proofs.Json.Restore
import HostingClient.Proofs.Json.Spelling
import HostingClient.Proofs.Json.Written
import HostingClient.Proofs.Number.Digits
import HostingClient.Proofs.Number.Rounding
import HostingClient.Proofs.Outcome
import HostingClient.Proofs.Resource.Newer
import HostingClient.Proofs.Resource.WireType
import HostingClient.Proofs.Session.Authentication
import HostingClient.Proofs.Session.Changes
import HostingClient.Proofs.Session.Expiry
import HostingClient.Proofs.Session.Faults
import HostingClient.Proofs.Session.Mirror
import HostingClient.Proofs.Session.Payload
import HostingClient.Proofs.Session.Profile
import HostingClient.Proofs.Settings.Layers
import HostingClient.Proofs.Storage.File
import HostingClient.Proofs.Storage.FileSystem
import HostingClient.Proofs.Storage.Recovery
import HostingClient.Proofs.Storage.Reliable
import HostingClient.Proofs.Storage.Replacement
import HostingClient.Proofs.Text.Utf8
import HostingClient.Proofs.Time.Calendar
import HostingClient.Proofs.Time.Timestamp
import HostingClient.Proofs.Url.Path
import HostingClient.Proofs.Url.Query
import HostingClient.Proofs.Url.Reader
import HostingClient.Proofs.Url.Slashes
import HostingClient.Resource.Account
import HostingClient.Resource.Analytics
import HostingClient.Resource.Blog
import HostingClient.Resource.Database
import HostingClient.Resource.Issue
import HostingClient.Resource.Label
import HostingClient.Resource.Maven
import HostingClient.Resource.Secret
import HostingClient.Resource.Space
import HostingClient.Resource.Version
import HostingClient.Session.Basic
import HostingClient.Session.Claims
import HostingClient.Session.Profile
import HostingClient.Settings.Basic
import HostingClient.Settings.Document
import HostingClient.Settings.Load
import HostingClient.Settings.Toml.Reader
import HostingClient.Settings.Toml.Table
import HostingClient.Settings.Toml.Text
import HostingClient.Settings.Toml.Word
import HostingClient.Settings.Yaml.Cursor
import HostingClient.Settings.Yaml.Node
import HostingClient.Settings.Yaml.Reader
import HostingClient.Settings.Yaml.Scalar
import HostingClient.Settings.Yaml.Tag
import HostingClient.Settings.Yaml.Token
import HostingClient.Storage.Basic
import HostingClient.Storage.File
import HostingClient.Storage.FileSystem
import HostingClient.Text.Alphanumeric
import HostingClient.Text.Blank
import HostingClient.Text.Composition
import HostingClient.Text.Mark
import HostingClient.Text.MarkClass
import HostingClient.Text.Quoted
import HostingClient.Text.Unprinted
import HostingClient.Text.Utf8
import HostingClient.Time.Calendar
import HostingClient.Time.Instant
import HostingClient.Time.Timestamp
import HostingClient.Url.Address
import HostingClient.Url.Basic
import HostingClient.Url.Direction
import HostingClient.Url.Host
import HostingClient.Url.Joining
import HostingClient.Url.Mapping
import HostingClient.Url.Name
import HostingClient.Url.Punycode
import HostingClient.Url.Reader
import HostingClient.Url.Refused
