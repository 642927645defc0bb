import TemplateShare.Main
import TemplateShare.Store
import TemplateShare.Proofs.Content
import TemplateShare.Proofs.Session.Kept
import TemplateShare.Proofs.Session.Dirty
import TemplateShare.Proofs.Session.Passwords
import TemplateShare.Proofs.Session.Credentials
import TemplateShare.Proofs.Yaml.Progress
import TemplateShare.Proofs.Yaml.Word
import TemplateShare.Proofs.Yaml.Entry
import TemplateShare.Proofs.Yaml.Layout
import TemplateShare.Proofs.Yaml.Tree
import TemplateShare.Proofs.Decimal
import TemplateShare.Proofs.Yaml.Record
import TemplateShare.Proofs.Portable.Layout
import TemplateShare.Proofs.Portable.Reading
import TemplateShare.Proofs.RemoteDocument
import TemplateShare.Proofs.Wire.Base64
import TemplateShare.Proofs.Wire.Gzip
import TemplateShare.Proofs.Wire.Json
import TemplateShare.Proofs.Wire.Payload
import TemplateShare.Proofs.Store.Request
import TemplateShare.Proofs.Store.Answer
import TemplateShare.Proofs.Session.WellFormed
import TemplateShare.Proofs.Sharing
import TemplateShare.Proofs.WorkingCopy
import TemplateShare.Proofs.Store.Reply
import TemplateShare.Proofs.Command.Guarded
import TemplateShare.Proofs.Command.Covered
import TemplateShare.Proofs.Command.Careful
import TemplateShare.Proofs.Files
import TemplateShare.Proofs.Collaboration
import TemplateShare.Proofs.Portable.RoundTrip
import TemplateShare.Proofs.Portable.Readable
import TemplateShare.Proofs.Wire.RoundTrip
import TemplateShare.Proofs.Command.Paste
import TemplateShare.Proofs.WorkingCopy.Session
import TemplateShare.Proofs.Session.Saved
import TemplateShare.Proofs.Store.Gate
import TemplateShare.Proofs.Sharing.Accepted
import TemplateShare.Proofs.Core
import TemplateShare.Proofs.Command.Evidence
import TemplateShare.Proofs.Command.Truthful
import TemplateShare.Proofs.Workspace
import TemplateShare.Proofs.Command.Outcome
import TemplateShare.Proofs.Command.Forced
import TemplateShare.Proofs.Session.Run
import TemplateShare.Proofs.Session.Edit
import TemplateShare.Proofs.Session.Superseded
import TemplateShare.Proofs.Session.Namespace
import TemplateShare.Proofs.Store.Guarded
import TemplateShare.Proofs.Sharing.Protected
import TemplateShare.Proofs.Registry.Catalog
import TemplateShare.Proofs.Registry.Runs
import TemplateShare.Proofs.Session.Notebook
import TemplateShare.Proofs.Session.Clean
import TemplateShare.Proofs.Session.State
import TemplateShare.Proofs.Session.Location
import TemplateShare.Proofs.Command.Declined
import TemplateShare.Proofs.Command.Faults
import TemplateShare.Proofs.Store.Protection
import TemplateShare.Proofs.Sharing.Capability
import TemplateShare.Proofs.Store.Rules
import TemplateShare.Proofs.Store.Locked
import TemplateShare.Proofs.Store.Assigned
import TemplateShare.Proofs.Store.Renamed
import TemplateShare.Proofs.Session.Renamed
import TemplateShare.Proofs.Command.Renamed
import TemplateShare.Proofs.Confidential
import TemplateShare.Proofs.Session.Unlinked
import TemplateShare.Proofs.Portable.Unique
import TemplateShare.Proofs.Portable.Markup
import TemplateShare.Proofs.Url.Query
import TemplateShare.Proofs.Url.Path
import TemplateShare.Proofs.Url.Punycode
import TemplateShare.Proofs.Url.DomainName
import TemplateShare.Proofs.Url.Address
import TemplateShare.Proofs.Url.Host
import TemplateShare.Proofs.Url.Authority
import TemplateShare.Proofs.Url.Parser
import TemplateShare.Proofs.Link
import TemplateShare.Proofs.Text.Lines
import TemplateShare.Proofs.Preview.Delimiter
import TemplateShare.Proofs.Preview.Lines
import TemplateShare.Proofs.Preview.Table
import TemplateShare.Proofs.RenderPayload
import TemplateShare.Proofs.Command.Prompted
import TemplateShare.Proofs.Command.Attempts
import TemplateShare.Proofs.Text.Width
import TemplateShare.Proofs.CommandLine.Table
import TemplateShare.Proofs.Url.Join
import TemplateShare.Proofs.Url.Closed
import TemplateShare.Proofs.Url.Slash
import TemplateShare.Proofs.Endpoint
