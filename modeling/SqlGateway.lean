import SqlGateway.Calendar.Zone
import SqlGateway.Condition.Sql
import SqlGateway.Number.Decimal
import SqlGateway.Number.Exact
import SqlGateway.Number.Numeral
import SqlGateway.Number.Shortest
import SqlGateway.Proofs.Calendar.Conversion
import SqlGateway.Proofs.Calendar.Offset
import SqlGateway.Proofs.Calendar.Ordinal
import SqlGateway.Proofs.Calendar.Stamp
import SqlGateway.Proofs.Condition.Enclosure
import SqlGateway.Proofs.Condition.Grammar
import SqlGateway.Proofs.Condition.Layout
import SqlGateway.Proofs.Condition.Membership
import SqlGateway.Proofs.Condition.Shape
import SqlGateway.Proofs.Condition.Spelling
import SqlGateway.Proofs.Condition.Structure
import SqlGateway.Proofs.List
import SqlGateway.Proofs.Number.Numeral
import SqlGateway.Proofs.Session.Among
import SqlGateway.Proofs.Session.Closing
import SqlGateway.Proofs.Session.Follow
import SqlGateway.Proofs.Session.Lease
import SqlGateway.Proofs.Session.Password
import SqlGateway.Proofs.Session.Query
import SqlGateway.Proofs.Session.SinglePool
import SqlGateway.Proofs.Session.Table
import SqlGateway.Proofs.Settings.Sources
import SqlGateway.Proofs.Settings.Url
import SqlGateway.Proofs.Settings.UrlFault
import SqlGateway.Proofs.Settings.Validation
import SqlGateway.Proofs.Sql.Listing
import SqlGateway.Proofs.Sql.Nesting
import SqlGateway.Proofs.Sql.Refusal
import SqlGateway.Proofs.Sql.Separated
import SqlGateway.Proofs.Statement.Arity
import SqlGateway.Proofs.Statement.Columns
import SqlGateway.Proofs.Statement.Factoring
import SqlGateway.Proofs.Statement.Filter
import SqlGateway.Proofs.Statement.Insertion
import SqlGateway.Proofs.Statement.Limit
import SqlGateway.Proofs.Statement.Rendering
import SqlGateway.Proofs.Statement.Rows
import SqlGateway.Proofs.Text.Lower
import SqlGateway.Proofs.Text.Basic
import SqlGateway.Proofs.Url.Authority
import SqlGateway.Proofs.Url.Percent
import SqlGateway.Proofs.Url.Query
import SqlGateway.Proofs.Url.Written
import SqlGateway.Session.Action
import SqlGateway.Session.Clock
import SqlGateway.Session.Crew
import SqlGateway.Session.Gateway
import SqlGateway.Session.Pool
import SqlGateway.Settings.Basic
import SqlGateway.Settings.Source
import SqlGateway.Sql.Literal
import SqlGateway.Statement.Basic
import SqlGateway.Statement.Insert
import SqlGateway.Text.Lower
import SqlGateway.Text.Quoted
import SqlGateway.Text.Utf8
import SqlGateway.Text.Word
import SqlGateway.Url.Parts
import SqlGateway.Value.Basic
import SqlGateway.Value.Display
import SqlGateway.Value.Mapping
