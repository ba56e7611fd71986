import SchemaRegistry.Action
import SchemaRegistry.Auth.Credentials
import SchemaRegistry.Auth.Error
import SchemaRegistry.Auth.Status
import SchemaRegistry.Auth.TokenStore
import SchemaRegistry.Auth.Vault
import SchemaRegistry.Compatibility
import SchemaRegistry.Disk.Basic
import SchemaRegistry.Disk.Node
import SchemaRegistry.Disk.Path
import SchemaRegistry.Domain.ClassTable
import SchemaRegistry.Domain.Label
import SchemaRegistry.Domain.Mapping
import SchemaRegistry.Domain.MappingTable
import SchemaRegistry.Domain.Name
import SchemaRegistry.Domain.Punycode
import SchemaRegistry.Engine
import SchemaRegistry.Host.Basic
import SchemaRegistry.Host.Event
import SchemaRegistry.Json.Decode
import SchemaRegistry.Json.Document
import SchemaRegistry.Json.Error
import SchemaRegistry.Json.Reader
import SchemaRegistry.Json.Skip
import SchemaRegistry.Json.Typed
import SchemaRegistry.Json.Value
import SchemaRegistry.Json.Writer
import SchemaRegistry.Log.Basic
import SchemaRegistry.Log.Endpoint
import SchemaRegistry.Log.Memory
import SchemaRegistry.Log.Segment
import SchemaRegistry.Main
import SchemaRegistry.Outage
import SchemaRegistry.Record
import SchemaRegistry.Registry.Assembly
import SchemaRegistry.Registry.Basic
import SchemaRegistry.Registry.Gate
import SchemaRegistry.Registry.Topology
import SchemaRegistry.Replay
import SchemaRegistry.Server.Arguments
import SchemaRegistry.Server.Basic
import SchemaRegistry.Server.Filter
import SchemaRegistry.Service
import SchemaRegistry.Settings.Basic
import SchemaRegistry.Settings.Reading
import SchemaRegistry.Settings.Source
import SchemaRegistry.Settings.Tree
import SchemaRegistry.Storage
import SchemaRegistry.Store.Backend
import SchemaRegistry.Store.Cache
import SchemaRegistry.Store.Change
import SchemaRegistry.Store.Database
import SchemaRegistry.Store.Directory
import SchemaRegistry.Store.Error
import SchemaRegistry.Store.Image
import SchemaRegistry.Store.Key
import SchemaRegistry.Store.Row
import SchemaRegistry.Store.Versions
import SchemaRegistry.Store.View
import SchemaRegistry.Text.Alphanumeric
import SchemaRegistry.Text.Blank
import SchemaRegistry.Text.CodeSet
import SchemaRegistry.Text.Composition
import SchemaRegistry.Text.CompositionTable
import SchemaRegistry.Text.Hidden
import SchemaRegistry.Text.Lower
import SchemaRegistry.Text.Numeral
import SchemaRegistry.Text.Pattern
import SchemaRegistry.Text.Split
import SchemaRegistry.Text.Utf8
import SchemaRegistry.Toml.Document
import SchemaRegistry.Toml.Item
import SchemaRegistry.Toml.Scalar
import SchemaRegistry.Url.Basic
import SchemaRegistry.Url.Error
import SchemaRegistry.Url.Host
import SchemaRegistry.Url.Parse
import SchemaRegistry.Url.Percent
import SchemaRegistry.Proofs.Frame
import SchemaRegistry.Proofs.StreamFile
import SchemaRegistry.Proofs.FailedAppend
import SchemaRegistry.Proofs.SegmentLog
import SchemaRegistry.Proofs.LogRefinement
import SchemaRegistry.Proofs.Recovery
import SchemaRegistry.Proofs.Corruption
import SchemaRegistry.Proofs.Follower
import SchemaRegistry.Proofs.Json
import SchemaRegistry.Proofs.Record
import SchemaRegistry.Proofs.JsonString
import SchemaRegistry.Proofs.JsonObject
import SchemaRegistry.Proofs.Payload
import SchemaRegistry.Proofs.Cache
import SchemaRegistry.Proofs.LogWriter
import SchemaRegistry.Proofs.Isolation
import SchemaRegistry.Proofs.Interchange
import SchemaRegistry.Proofs.Lag
import SchemaRegistry.Proofs.Write
import SchemaRegistry.Proofs.Request
import SchemaRegistry.Proofs.Prompt
import SchemaRegistry.Proofs.StaleReview
import SchemaRegistry.Proofs.Repeat
import SchemaRegistry.Proofs.DryRun
import SchemaRegistry.Proofs.Gate
import SchemaRegistry.Proofs.Users
import SchemaRegistry.Proofs.Revocation
import SchemaRegistry.Proofs.Admission
import SchemaRegistry.Proofs.Assembly
import SchemaRegistry.Proofs.WriteAhead
import SchemaRegistry.Proofs.Compatibility
import SchemaRegistry.Proofs.Percent
import SchemaRegistry.Proofs.SecretUrl
import SchemaRegistry.Proofs.Secret
import SchemaRegistry.Proofs.TokenCalls
import SchemaRegistry.Proofs.TokenStore
import SchemaRegistry.Proofs.TokenIndex
import SchemaRegistry.Proofs.ReadBack
import SchemaRegistry.Proofs.Engine
import SchemaRegistry.Proofs.OwnFile
import SchemaRegistry.Proofs.RowOrder
import SchemaRegistry.Proofs.FirstId
