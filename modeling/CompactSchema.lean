import CompactSchema.Calendar
import CompactSchema.Cluster
import CompactSchema.Cluster.Calls
import CompactSchema.Cluster.Endpoint
import CompactSchema.Cluster.Replication
import CompactSchema.Config
import CompactSchema.Config.File
import CompactSchema.Config.Json
import CompactSchema.Config.Toml
import CompactSchema.Entries
import CompactSchema.Failure
import CompactSchema.Fingerprint
import CompactSchema.Json
import CompactSchema.Json.Document
import CompactSchema.Json.Quoted
import CompactSchema.Json.Reader
import CompactSchema.Json.Token
import CompactSchema.Kind
import CompactSchema.Number.Binary
import CompactSchema.Number.Decimal
import CompactSchema.Number.Power
import CompactSchema.Number.Shortest
import CompactSchema.Number.Style
import CompactSchema.Proofs.Call
import CompactSchema.Proofs.Registry
import CompactSchema.Proofs.Service
import CompactSchema.Record
import CompactSchema.Record.Access
import CompactSchema.Record.Accessor
import CompactSchema.Record.Builder
import CompactSchema.Registry
import CompactSchema.Schema
import CompactSchema.Schema.Json
import CompactSchema.Schema.Layout
import CompactSchema.SchemaError
import CompactSchema.Service
import CompactSchema.Service.Environment
import CompactSchema.Service.Notice
import CompactSchema.Service.Publication
import CompactSchema.Service.Resolution
import CompactSchema.Text.Digits
import CompactSchema.Text.Hidden
import CompactSchema.Text.Inspect
import CompactSchema.Toml.Document
import CompactSchema.Toml.Literal
import CompactSchema.Toml.Text
import CompactSchema.Toml.Tree
import CompactSchema.Value
import CompactSchema.Value.Conformance
import CompactSchema.Value.Equality
import CompactSchema.Value.Inspect
import CompactSchema.Value.Json
import CompactSchema.Value.Sink
import CompactSchema.Proofs.History
import CompactSchema.Proofs.Cluster.Growth
import CompactSchema.Proofs.Cluster.Agreement
import CompactSchema.Proofs.Cluster.Availability
import CompactSchema.Proofs.Cluster.Promptness
import CompactSchema.Proofs.Bookkeeping
import CompactSchema.Proofs.Cluster.Joining
import CompactSchema.Proofs.Record.Building
import CompactSchema.Proofs.Record.Validity
import CompactSchema.Proofs.Record.Reading
import CompactSchema.Proofs.Fingerprint.Register
import CompactSchema.Proofs.Fingerprint.Stream
import CompactSchema.Proofs.Record.Routes
import CompactSchema.Proofs.Fingerprint.Window
import CompactSchema.Proofs.Fingerprint.Decoding
import CompactSchema.Proofs.Layout.Positions
import CompactSchema.Proofs.Layout.Tiling
import CompactSchema.Proofs.Json.Reading
import CompactSchema.Proofs.Json.Parts
import CompactSchema.Proofs.Schema.Reading
import CompactSchema.Proofs.Loading
import CompactSchema.Proofs.Snapshot
import CompactSchema.Proofs.Schema.Listing
import CompactSchema.Proofs.BulkLoad
import CompactSchema.Proofs.Convergence
import CompactSchema.Proofs.Cluster.Requests
import CompactSchema.Proofs.Cluster.FanOut
import CompactSchema.Proofs.Resolution
import CompactSchema.Proofs.Layout.Order
import CompactSchema.Proofs.Schema.Equality
import CompactSchema.Proofs.Schema.Padding
import CompactSchema.Proofs.Record.Access
import CompactSchema.Proofs.Record.Arrays
import CompactSchema.Proofs.Value.Equality
import CompactSchema.Proofs.Value.Sharing
import CompactSchema.Proofs.Number.Widening
import CompactSchema.Proofs.Json.Views
import CompactSchema.Proofs.Text.Digits
import CompactSchema.Proofs.Calendar
import CompactSchema.Proofs.Number.Decimal
import CompactSchema.Proofs.Json.Exactness
import CompactSchema.Proofs.Record.Assembly
