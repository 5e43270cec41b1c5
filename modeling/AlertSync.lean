import AlertSync.Alert
import AlertSync.AlertConfig
import AlertSync.AlertState
import AlertSync.Artifact
import AlertSync.Backend.Alerting
import AlertSync.Backend.Metrics
import AlertSync.Backend.Platform
import AlertSync.Bus
import AlertSync.Counters
import AlertSync.Duration
import AlertSync.Error
import AlertSync.FileSystem
import AlertSync.Form
import AlertSync.Http
import AlertSync.Http.Status
import AlertSync.Inventory
import AlertSync.Json.Number
import AlertSync.Json.Printer
import AlertSync.Json.Reader
import AlertSync.Json.Value
import AlertSync.Kind
import AlertSync.Lifecycle
import AlertSync.LiveAlert
import AlertSync.Loop
import AlertSync.Main
import AlertSync.Numeral.Binary64
import AlertSync.Numeral.Decimal
import AlertSync.Outcome
import AlertSync.Program
import AlertSync.Recipient
import AlertSync.Reconcile
import AlertSync.Registry
import AlertSync.Resource
import AlertSync.Route
import AlertSync.Route.Config
import AlertSync.Rule
import AlertSync.Scrape
import AlertSync.Scrape.Merge
import AlertSync.Server
import AlertSync.Settings
import AlertSync.Settings.CommandLine
import AlertSync.Settings.Name
import AlertSync.Settings.Usage
import AlertSync.Simulation
import AlertSync.SortedMap
import AlertSync.StopChannel
import AlertSync.StopSignal
import AlertSync.Store
import AlertSync.Store.Config
import AlertSync.Store.Objects
import AlertSync.Store.Table
import AlertSync.Synchronizer
import AlertSync.Text.Base64
import AlertSync.Text.Blank
import AlertSync.Text.Composition
import AlertSync.Text.Direction
import AlertSync.Text.Extending
import AlertSync.Text.Joining
import AlertSync.Text.Mark
import AlertSync.Text.Quoted
import AlertSync.Text.Range
import AlertSync.Text.Unprintable
import AlertSync.Ticker
import AlertSync.Timestamp
import AlertSync.Traffic
import AlertSync.Tree
import AlertSync.Url
import AlertSync.Url.Domain
import AlertSync.Url.Error
import AlertSync.Url.Folding
import AlertSync.Url.Host
import AlertSync.Url.Percent
import AlertSync.Url.Punycode
import AlertSync.Url.Reader
import AlertSync.Validation
import AlertSync.Yaml.Cursor
import AlertSync.Yaml.Document
import AlertSync.Yaml.Node
import AlertSync.Yaml.OfJson
import AlertSync.Yaml.Plain
import AlertSync.Yaml.Printer
import AlertSync.Yaml.Reader
import AlertSync.Yaml.ScalarReader
import AlertSync.Yaml.ScalarText
import AlertSync.Yaml.Value
import AlertSync.Proofs.Routing.Tree
import AlertSync.Proofs.Routing.Identity
import AlertSync.Proofs.Routing.Grouping
import AlertSync.Proofs.Json.RoundTrip
import AlertSync.Proofs.Timestamp.RoundTrip
import AlertSync.Proofs.Payload
import AlertSync.Proofs.Payload.RoundTrip
import AlertSync.Proofs.Contents
import AlertSync.Proofs.Registry
import AlertSync.Proofs.Request
import AlertSync.Proofs.Task
import AlertSync.Proofs.Integrity
import AlertSync.Proofs.Success
import AlertSync.Proofs.Silences
import AlertSync.Proofs.Validity
import AlertSync.Proofs.Convergence
import AlertSync.Proofs.World
import AlertSync.Proofs.Lifecycle
import AlertSync.Proofs.Program.Replies
import AlertSync.Proofs.Looking
import AlertSync.Proofs.Failure
import AlertSync.Proofs.Independence
import AlertSync.Proofs.Interleaving
import AlertSync.Proofs.Interchange
import AlertSync.Proofs.Loop.Steps
import AlertSync.Proofs.Loop.Stopping
import AlertSync.Proofs.Loop.Log
import AlertSync.Proofs.Loop.Cycles
import AlertSync.Proofs.Loop.Waking
import AlertSync.Proofs.Loop.Pacing
import AlertSync.Proofs.Files.Transaction
import AlertSync.Proofs.Generating
import AlertSync.Proofs.Scrape.Merging
import AlertSync.Proofs.Scrape.Ticks
import AlertSync.Proofs.Resting
import AlertSync.Proofs.Reconcile
import AlertSync.Proofs.Queries
import AlertSync.Proofs.Selector
import AlertSync.Proofs.Duration
import AlertSync.Proofs.Duration.Canonical
import AlertSync.Proofs.Duration.Grammar
import AlertSync.Proofs.Yaml.Cursor
import AlertSync.Proofs.Yaml.Scalars
import AlertSync.Proofs.Yaml.Literal
import AlertSync.Proofs.Yaml.Inline
import AlertSync.Proofs.Yaml.Blocks
import AlertSync.Proofs.Yaml.Written
import AlertSync.Proofs.Yaml.RoundTrip
import AlertSync.Proofs.Forms
import AlertSync.Proofs.Yaml.Forms
import AlertSync.Proofs.Readback
import AlertSync.Proofs.SilenceFilter
import AlertSync.Proofs.Trail
import AlertSync.Proofs.Listing
import AlertSync.Proofs.Addresses
import AlertSync.Proofs.Removal
import AlertSync.Proofs.StopChannel
import AlertSync.Proofs.Traffic
