import RowIdentity.Assoc
import RowIdentity.Backend
import RowIdentity.Backfill
import RowIdentity.Command.Arguments
import RowIdentity.Command.Log
import RowIdentity.Command.Run
import RowIdentity.Command.Usage
import RowIdentity.Disturbance
import RowIdentity.Error
import RowIdentity.ExternalId
import RowIdentity.Flags
import RowIdentity.Graph.Document
import RowIdentity.Graph.Execution
import RowIdentity.Graph.Literal
import RowIdentity.Graph.Reader
import RowIdentity.Graph.RequestBody
import RowIdentity.Graph.Token
import RowIdentity.Http.App
import RowIdentity.Http.Handler
import RowIdentity.Http.Message
import RowIdentity.Instant
import RowIdentity.Json.Basic
import RowIdentity.Json.Reader
import RowIdentity.Json.Writer
import RowIdentity.Main
import RowIdentity.Mapping
import RowIdentity.Memory
import RowIdentity.Model
import RowIdentity.Page
import RowIdentity.Program
import RowIdentity.Query
import RowIdentity.Registry
import RowIdentity.Resolution
import RowIdentity.Row
import RowIdentity.Scheme
import RowIdentity.Settings.Basic
import RowIdentity.Settings.Document
import RowIdentity.Settings.Value
import RowIdentity.Sql.Database
import RowIdentity.Sql.Select
import RowIdentity.Sql.Store
import RowIdentity.Sql.Trigger
import RowIdentity.Text.Base64
import RowIdentity.Text.Binary64
import RowIdentity.Text.Blank
import RowIdentity.Text.Calendar
import RowIdentity.Text.CaseTable
import RowIdentity.Text.Decimal
import RowIdentity.Text.Hexadecimal
import RowIdentity.Text.Invisible
import RowIdentity.Text.Lowercase
import RowIdentity.Text.Percent
import RowIdentity.Text.Quoted
import RowIdentity.Text.Ranges
import RowIdentity.Text.Utf8
import RowIdentity.Uuid
import RowIdentity.Yaml.Cursor
import RowIdentity.Yaml.Node
import RowIdentity.Yaml.Scalar
import RowIdentity.Yaml.Token
import RowIdentity.Proofs.Text.Bytes
import RowIdentity.Proofs.Text.Decimal
import RowIdentity.Proofs.Uuid
import RowIdentity.Proofs.Action
import RowIdentity.Proofs.Assoc
import RowIdentity.Proofs.Backfill
import RowIdentity.Proofs.ExternalId
import RowIdentity.Proofs.GlobalId
import RowIdentity.Proofs.Lifecycle
import RowIdentity.Proofs.Resolution.Dispatch
import RowIdentity.Proofs.Resolution.Node
import RowIdentity.Proofs.Resolution.RoundTrip
import RowIdentity.Proofs.Resolution.Outcome
import RowIdentity.Proofs.Resolution.RowId
import RowIdentity.Proofs.Listing.Query
import RowIdentity.Proofs.Listing.Order
import RowIdentity.Proofs.Listing.Page
import RowIdentity.Proofs.Listing.Paging
import RowIdentity.Proofs.Resolution.Lookup
import RowIdentity.Proofs.Concurrency.Interference
import RowIdentity.Proofs.Listing.Walk
import RowIdentity.Proofs.Concurrency.Backfill
import RowIdentity.Proofs.Concurrency.Handlers
import RowIdentity.Proofs.Concurrency.Service
import RowIdentity.Proofs.Resolution.Identity
import RowIdentity.Proofs.Serving.FreshRow
import RowIdentity.Proofs.Serving.Request
import RowIdentity.Proofs.Serving.Cycle
import RowIdentity.Proofs.Listing.Items
import RowIdentity.Proofs.Serving.Blame
import RowIdentity.Proofs.Serving.Status
import RowIdentity.Proofs.Sql.Agreement
import RowIdentity.Proofs.Counting
import RowIdentity.Proofs.Stability
import RowIdentity.Proofs.Sql.Race
import RowIdentity.Proofs.Serving.ReadOnly
import RowIdentity.Proofs.Disturbance.Calls
import RowIdentity.Proofs.Disturbance.Batch
import RowIdentity.Proofs.Disturbance.Coverage
import RowIdentity.Proofs.Disturbance.Accounting
import RowIdentity.Proofs.Resolution.Number
import RowIdentity.Proofs.Resolution.Key
import RowIdentity.Proofs.Sql.Quoting
import RowIdentity.Proofs.Sql.Text
import RowIdentity.Proofs.Sql.Catalogue
import RowIdentity.Proofs.Separation.State
import RowIdentity.Proofs.Separation.Course
import RowIdentity.Proofs.Resolution.Flips
import RowIdentity.Proofs.Dialogue
import RowIdentity.Proofs.Sql.Replies
import RowIdentity.Proofs.Command.Scan
import RowIdentity.Proofs.Command.Success
import RowIdentity.Proofs.Creation
import RowIdentity.Proofs.Registration
import RowIdentity.Proofs.Backfill.Alone
import RowIdentity.Proofs.Backfill.DryRun
import RowIdentity.Proofs.Backfill.RowByRow
import RowIdentity.Proofs.Text.Lowercase
import RowIdentity.Proofs.Command.AppFilter
import RowIdentity.Proofs.Sql.PageSize
import RowIdentity.Proofs.Command.BatchSize
import RowIdentity.Proofs.Graph.Answer
import RowIdentity.Proofs.Graph.RootField
import RowIdentity.Proofs.Mapping.Drawing
import RowIdentity.Proofs.Uuid.Layout
