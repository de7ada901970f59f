import RoleGrants.Address
import RoleGrants.Cache.Access
import RoleGrants.Cache.Basic
import RoleGrants.Cache.Error
import RoleGrants.Database.Error
import RoleGrants.Database.Options
import RoleGrants.Database.Url
import RoleGrants.Document
import RoleGrants.Document.Json
import RoleGrants.Document.Layout
import RoleGrants.Engine.Basic
import RoleGrants.Engine.Build
import RoleGrants.Engine.Error
import RoleGrants.Engine.Model
import RoleGrants.Engine.Pattern.Basic
import RoleGrants.Engine.Pattern.CharSet
import RoleGrants.Engine.Pattern.Escape
import RoleGrants.Engine.Pattern.Mode
import RoleGrants.Engine.Pattern.Nested
import RoleGrants.Engine.Pattern.Ranges
import RoleGrants.Engine.Pattern.Reading
import RoleGrants.Engine.Pattern.Repetition
import RoleGrants.Engine.Pattern.Search
import RoleGrants.Engine.Pattern.SetReading
import RoleGrants.Engine.Pattern.Size
import RoleGrants.Engine.RoutePattern
import RoleGrants.Engine.RuleFile
import RoleGrants.Files.OsError
import RoleGrants.Files.PathName
import RoleGrants.Files.Place
import RoleGrants.Files.Tree
import RoleGrants.Http.ContentType
import RoleGrants.Http.Exchange
import RoleGrants.Http.Routes
import RoleGrants.Line
import RoleGrants.Main
import RoleGrants.MenuPath
import RoleGrants.Metrics
import RoleGrants.Policy.Authorize
import RoleGrants.Policy.Compiled
import RoleGrants.Policy.Error
import RoleGrants.Policy.Gather
import RoleGrants.Policy.Generation
import RoleGrants.Policy.Pool
import RoleGrants.Policy.Publish
import RoleGrants.Proofs.Cache.Expiry
import RoleGrants.Proofs.Cache.Isolation
import RoleGrants.Proofs.Engine.BuiltIn
import RoleGrants.Proofs.Engine.PlainRoutes
import RoleGrants.Proofs.Engine.Searching
import RoleGrants.Proofs.Files.Aims
import RoleGrants.Proofs.Files.Growing
import RoleGrants.Proofs.Files.Paths
import RoleGrants.Proofs.Ordering
import RoleGrants.Proofs.Policy.Additive
import RoleGrants.Proofs.Policy.Ascent
import RoleGrants.Proofs.Policy.Backups
import RoleGrants.Proofs.Policy.Callers
import RoleGrants.Proofs.Policy.Canonical
import RoleGrants.Proofs.Policy.Enforcing
import RoleGrants.Proofs.Policy.Gathering
import RoleGrants.Proofs.Policy.History
import RoleGrants.Proofs.Policy.Inheritance
import RoleGrants.Proofs.Policy.Interrupted
import RoleGrants.Proofs.Policy.Publishing
import RoleGrants.Proofs.Policy.Rotating
import RoleGrants.Proofs.Policy.RoundTrip
import RoleGrants.Proofs.Policy.Rounds
import RoleGrants.Proofs.Pool.Accounting
import RoleGrants.Proofs.Pool.Crashes
import RoleGrants.Proofs.Pool.Schedules
import RoleGrants.Proofs.Pool.Steps
import RoleGrants.Proofs.Settings.Fields
import RoleGrants.Proofs.Settings.Layers
import RoleGrants.Proofs.Settings.Prefixes
import RoleGrants.Proofs.Settings.Runnable
import RoleGrants.Proofs.Signal.Advancing
import RoleGrants.Proofs.Signal.Markers
import RoleGrants.Proofs.Signal.Writers
import RoleGrants.Proofs.Store.Cascade
import RoleGrants.Proofs.Store.Grants
import RoleGrants.Proofs.Store.Integrity
import RoleGrants.Proofs.Store.Lineage
import RoleGrants.Proofs.Store.Parents
import RoleGrants.Proofs.Store.Rows
import RoleGrants.Proofs.Store.SideBySide
import RoleGrants.Proofs.Store.Unordered
import RoleGrants.Proofs.Sync.Announced
import RoleGrants.Proofs.Sync.Announcing
import RoleGrants.Proofs.Sync.Apart
import RoleGrants.Proofs.Sync.Atomicity
import RoleGrants.Proofs.Sync.Beside
import RoleGrants.Proofs.Sync.Building
import RoleGrants.Proofs.Sync.Checking
import RoleGrants.Proofs.Sync.Delivery
import RoleGrants.Proofs.Sync.Enforced
import RoleGrants.Proofs.Sync.Entries
import RoleGrants.Proofs.Sync.Failing
import RoleGrants.Proofs.Sync.Faithful
import RoleGrants.Proofs.Sync.Faults
import RoleGrants.Proofs.Sync.Guarded
import RoleGrants.Proofs.Sync.Healing
import RoleGrants.Proofs.Sync.Inquiries
import RoleGrants.Proofs.Sync.Journal
import RoleGrants.Proofs.Sync.Moves
import RoleGrants.Proofs.Sync.Progress
import RoleGrants.Proofs.Sync.Recording
import RoleGrants.Proofs.Sync.Runs
import RoleGrants.Proofs.Sync.Settling
import RoleGrants.Proofs.Sync.Turns
import RoleGrants.Proofs.Text.Pieces
import RoleGrants.Record
import RoleGrants.Service
import RoleGrants.Settings.Basic
import RoleGrants.Settings.Environment
import RoleGrants.Settings.Error
import RoleGrants.Settings.Overrides
import RoleGrants.Signal.Basic
import RoleGrants.Signal.Error
import RoleGrants.Sorted
import RoleGrants.Startup
import RoleGrants.Store.Basic
import RoleGrants.Store.Error
import RoleGrants.Store.Queries
import RoleGrants.Store.Seed
import RoleGrants.Sync.Basic
import RoleGrants.Sync.Loop
import RoleGrants.Sync.Move
import RoleGrants.Sync.Pass
import RoleGrants.Table
import RoleGrants.Text.Blank
import RoleGrants.Text.Decimal
import RoleGrants.Text.Folding
import RoleGrants.Text.Quoted
import RoleGrants.Text.Ranges
import RoleGrants.Text.Real.Basic
import RoleGrants.Text.Real.Shortest
import RoleGrants.Text.Spelling
import RoleGrants.Text.Split
import RoleGrants.Text.Unprintable
import RoleGrants.Text.Utf8
import RoleGrants.Text.WordPart
import RoleGrants.Yaml.Cursor
import RoleGrants.Yaml.Node
import RoleGrants.Yaml.Reading
import RoleGrants.Yaml.Scalar
import RoleGrants.Yaml.Tag
import RoleGrants.Yaml.Token
