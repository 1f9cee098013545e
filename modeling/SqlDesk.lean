import SqlDesk.Assoc
import SqlDesk.Collation
import SqlDesk.Column
import SqlDesk.Database
import SqlDesk.Desk
import SqlDesk.Desk.Bench
import SqlDesk.Desk.Collation
import SqlDesk.Desk.Connection
import SqlDesk.Desk.Databases
import SqlDesk.Desk.Facts
import SqlDesk.Desk.Reply
import SqlDesk.Desk.Request
import SqlDesk.Desk.Statement
import SqlDesk.Desk.Tables
import SqlDesk.Desk.Transformation
import SqlDesk.Digest
import SqlDesk.Driver
import SqlDesk.Driver.Client
import SqlDesk.Driver.Connector
import SqlDesk.Driver.Request
import SqlDesk.Driver.Script
import SqlDesk.Error
import SqlDesk.Fault
import SqlDesk.Fault.Message
import SqlDesk.Log.Event
import SqlDesk.Log.Factory
import SqlDesk.Log.Group
import SqlDesk.Log.Level
import SqlDesk.Log.Logger
import SqlDesk.Log.Statement
import SqlDesk.Number.Binary64
import SqlDesk.Number.Decimal
import SqlDesk.Number.DecimalText
import SqlDesk.Number.Rounding
import SqlDesk.Number.Shortest
import SqlDesk.Order.Listing
import SqlDesk.Order.Natural
import SqlDesk.Order.Sorting
import SqlDesk.Pattern.Issue
import SqlDesk.Pattern.Node
import SqlDesk.Pattern.Reader
import SqlDesk.Pattern.Search
import SqlDesk.Proofs.Act
import SqlDesk.Proofs.Assoc
import SqlDesk.Proofs.Desk.Affected
import SqlDesk.Proofs.Desk.Asked
import SqlDesk.Proofs.Desk.Charset
import SqlDesk.Proofs.Desk.Company
import SqlDesk.Proofs.Desk.Connection
import SqlDesk.Proofs.Desk.Debugging
import SqlDesk.Proofs.Desk.Descriptions
import SqlDesk.Proofs.Desk.Dialling
import SqlDesk.Proofs.Desk.Errors
import SqlDesk.Proofs.Desk.Facts
import SqlDesk.Proofs.Desk.Failure
import SqlDesk.Proofs.Desk.Known
import SqlDesk.Proofs.Desk.Links
import SqlDesk.Proofs.Desk.Literals
import SqlDesk.Proofs.Desk.Lookalikes
import SqlDesk.Proofs.Desk.Measured
import SqlDesk.Proofs.Desk.NamedTables
import SqlDesk.Proofs.Desk.Names
import SqlDesk.Proofs.Desk.Ordered
import SqlDesk.Proofs.Desk.Pages
import SqlDesk.Proofs.Desk.Permuted
import SqlDesk.Proofs.Desk.Request
import SqlDesk.Proofs.Desk.Selection
import SqlDesk.Proofs.Desk.Setup
import SqlDesk.Proofs.Desk.Sources
import SqlDesk.Proofs.Desk.Statement
import SqlDesk.Proofs.Desk.Version
import SqlDesk.Proofs.Desk.Visible
import SqlDesk.Proofs.Log.Levels
import SqlDesk.Proofs.Log.Nesting
import SqlDesk.Proofs.Log.Outputs
import SqlDesk.Proofs.Log.Tally
import SqlDesk.Proofs.Log.Works
import SqlDesk.Proofs.Order.Blocks
import SqlDesk.Proofs.Order.Figures
import SqlDesk.Proofs.Order.Integers
import SqlDesk.Proofs.Order.Keys
import SqlDesk.Proofs.Order.Listing
import SqlDesk.Proofs.Order.Numbers
import SqlDesk.Proofs.Order.Preorder
import SqlDesk.Proofs.Order.Runs
import SqlDesk.Proofs.Order.Sorted
import SqlDesk.Proofs.Order.Stable
import SqlDesk.Proofs.Order.Texts
import SqlDesk.Proofs.Order.Values
import SqlDesk.Proofs.Pattern.Matching
import SqlDesk.Proofs.Pattern.Reading
import SqlDesk.Proofs.Reread
import SqlDesk.Proofs.ResultSet.Columns
import SqlDesk.Proofs.ResultSet.Delivery
import SqlDesk.Proofs.Session.Entry
import SqlDesk.Proofs.Session.Facts
import SqlDesk.Proofs.Session.Request
import SqlDesk.Proofs.Session.Separation
import SqlDesk.Proofs.Session.View
import SqlDesk.Proofs.Settings.Assigned
import SqlDesk.Proofs.Settings.Connection
import SqlDesk.Proofs.Settings.File
import SqlDesk.Proofs.Settings.Model
import SqlDesk.Proofs.Settings.Redacted
import SqlDesk.Proofs.Settings.Reference
import SqlDesk.Proofs.Settings.Secrets
import SqlDesk.Proofs.Settings.Server
import SqlDesk.Proofs.Sql.Format
import SqlDesk.Proofs.Sql.Like
import SqlDesk.Proofs.Sql.LikeExpression
import SqlDesk.Proofs.Sql.Region
import SqlDesk.Proofs.Statistics
import SqlDesk.Proofs.Text.Digits
import SqlDesk.Proofs.Text.Lower
import SqlDesk.Proofs.Text.Numeral
import SqlDesk.Proofs.Text.Utf8
import SqlDesk.Proofs.Version
import SqlDesk.Refusal
import SqlDesk.ResultSet
import SqlDesk.ResultSet.Iteration
import SqlDesk.ResultSet.Reading
import SqlDesk.ServerMessage
import SqlDesk.Session
import SqlDesk.Session.Request
import SqlDesk.Settings.Connection
import SqlDesk.Settings.Desk
import SqlDesk.Settings.Environment
import SqlDesk.Settings.Field
import SqlDesk.Settings.File
import SqlDesk.Settings.Issue
import SqlDesk.Settings.Logging
import SqlDesk.Settings.Model
import SqlDesk.Settings.Server
import SqlDesk.Sql.Like
import SqlDesk.Sql.LikeExpression
import SqlDesk.Sql.Metadata
import SqlDesk.Sql.Placeholder
import SqlDesk.Sql.Setup
import SqlDesk.Table
import SqlDesk.Text.Case
import SqlDesk.Text.CaseTable
import SqlDesk.Text.Class
import SqlDesk.Text.FilePath
import SqlDesk.Text.Identifier
import SqlDesk.Text.Numeral
import SqlDesk.Text.Quoted
import SqlDesk.Text.Ranges
import SqlDesk.Text.Utf8
import SqlDesk.Value
import SqlDesk.Value.Number
import SqlDesk.Value.Show
import SqlDesk.Version
import SqlDesk.Yaml.Cursor
import SqlDesk.Yaml.Document
import SqlDesk.Yaml.Lexer
import SqlDesk.Yaml.Load
import SqlDesk.Yaml.Name
import SqlDesk.Yaml.Node
import SqlDesk.Yaml.Scalar
import SqlDesk.Yaml.Token
import SqlDesk.Proofs.Settings.Locale
import SqlDesk.Proofs.Identifiers
