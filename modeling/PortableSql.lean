import PortableSql.Bytes.BigEndian
import PortableSql.Calendar.Basic
import PortableSql.Calendar.Checked
import PortableSql.Calendar.JulianDay
import PortableSql.Calendar.JulianMoment
import PortableSql.CommandLine
import PortableSql.Conversion.Bind
import PortableSql.Conversion.Fetch
import PortableSql.Conversion.Number
import PortableSql.Error
import PortableSql.Json.Basic
import PortableSql.Json.Reader
import PortableSql.Json.Writer
import PortableSql.Main
import PortableSql.Number.BinaryFormat
import PortableSql.Number.Float
import PortableSql.Number.FloatText
import PortableSql.Number.FloatType
import PortableSql.Number.IntType
import PortableSql.Number.Power
import PortableSql.Number.Shortest
import PortableSql.OneBased
import PortableSql.Postgres.Backend
import PortableSql.Postgres.Cells
import PortableSql.Postgres.Copy
import PortableSql.Postgres.Dialect
import PortableSql.Postgres.Link
import PortableSql.Postgres.Options
import PortableSql.Postgres.Script
import PortableSql.Postgres.Statement
import PortableSql.Postgres.Wire
import PortableSql.Session.Backend
import PortableSql.Session.Basic
import PortableSql.Session.Playbook
import PortableSql.Session.Settings
import PortableSql.Sql.ColumnIndex
import PortableSql.Sql.Dialect
import PortableSql.Sql.Identifier
import PortableSql.Sql.Literal
import PortableSql.Sql.Piece
import PortableSql.Sql.Placeholders
import PortableSql.Sql.Rendering
import PortableSql.Sql.SlotMap
import PortableSql.Sql.StatementType
import PortableSql.Sql.Token
import PortableSql.SqlServer.Backend
import PortableSql.SqlServer.Cell
import PortableSql.SqlServer.Cells
import PortableSql.SqlServer.ColumnType
import PortableSql.SqlServer.Dialect
import PortableSql.SqlServer.Link
import PortableSql.SqlServer.Options
import PortableSql.SqlServer.Script
import PortableSql.SqlServer.Statement
import PortableSql.SqlServer.Wire
import PortableSql.Sqlite.Affinity
import PortableSql.Sqlite.Backend
import PortableSql.Sqlite.Command
import PortableSql.Sqlite.Comparison
import PortableSql.Sqlite.Dialect
import PortableSql.Sqlite.Engine
import PortableSql.Sqlite.Handle
import PortableSql.Sqlite.Lexeme
import PortableSql.Sqlite.Options
import PortableSql.Sqlite.Parser
import PortableSql.Sqlite.Plan
import PortableSql.Sqlite.RealText
import PortableSql.Sqlite.Statement
import PortableSql.Sqlite.Storage
import PortableSql.Sqlite.Table
import PortableSql.Sqlite.Temporal
import PortableSql.Sqlite.TemporalText
import PortableSql.Statement.Interface
import PortableSql.Statement.State
import PortableSql.Text.Blank
import PortableSql.Text.CaseTable
import PortableSql.Text.Decimal
import PortableSql.Text.Hex
import PortableSql.Text.LowerCase
import PortableSql.Text.Prefix
import PortableSql.Text.Utf16
import PortableSql.Text.Utf8
import PortableSql.Transaction.Basic
import PortableSql.Transaction.Connection
import PortableSql.Transaction.Params
import PortableSql.Transaction.State
import PortableSql.Value.Basic
import PortableSql.Value.Type
import PortableSql.Proofs.Bytes.BigEndian
import PortableSql.Proofs.Bytes.Sequence
import PortableSql.Proofs.Calendar.EncodedOrder
import PortableSql.Proofs.Calendar.InWords
import PortableSql.Proofs.Calendar.JulianDay
import PortableSql.Proofs.Calendar.Milliseconds
import PortableSql.Proofs.Calendar.Order
import PortableSql.Proofs.Calendar.TimeOfDay
import PortableSql.Proofs.Conversion.InPlace
import PortableSql.Proofs.Conversion.Integers
import PortableSql.Proofs.Conversion.Kinds
import PortableSql.Proofs.Conversion.Refusal
import PortableSql.Proofs.Conversion.RoundTrip
import PortableSql.Proofs.Conversion.WholeDoubles
import PortableSql.Proofs.Number.DecimalFraction
import PortableSql.Proofs.Number.Double
import PortableSql.Proofs.Number.Rounding
import PortableSql.Proofs.Number.Word
import PortableSql.Proofs.Postgres.Cells
import PortableSql.Proofs.Postgres.ColumnNames
import PortableSql.Proofs.Postgres.Copy
import PortableSql.Proofs.Postgres.CopyFormat
import PortableSql.Proofs.Postgres.Observable
import PortableSql.Proofs.Postgres.OnRow
import PortableSql.Proofs.Postgres.Parameters
import PortableSql.Proofs.Postgres.Rows
import PortableSql.Proofs.Postgres.SlotForms
import PortableSql.Proofs.Postgres.Wire
import PortableSql.Proofs.Postgres.WireNumbers
import PortableSql.Proofs.Result
import PortableSql.Proofs.Sql.ByteLoop
import PortableSql.Proofs.Sql.ByteParts
import PortableSql.Proofs.Sql.ByteScan
import PortableSql.Proofs.Sql.ByteTokens
import PortableSql.Proofs.Sql.Closing
import PortableSql.Proofs.Sql.ColumnIndex
import PortableSql.Proofs.Sql.ColumnLookups
import PortableSql.Proofs.Sql.Idempotence
import PortableSql.Proofs.Sql.Identifier
import PortableSql.Proofs.Sql.LeadingComments
import PortableSql.Proofs.Sql.Ledger
import PortableSql.Proofs.Sql.LiteralEnd
import PortableSql.Proofs.Sql.Nesting
import PortableSql.Proofs.Sql.PassThrough
import PortableSql.Proofs.Sql.Placeholders
import PortableSql.Proofs.Sql.Rendering
import PortableSql.Proofs.Sql.Renumbering
import PortableSql.Proofs.Sql.Respelling
import PortableSql.Proofs.Sql.SlotMap
import PortableSql.Proofs.Sql.SlotNumbers
import PortableSql.Proofs.SqlServer.Cells
import PortableSql.Proofs.SqlServer.ColumnNames
import PortableSql.Proofs.SqlServer.FailedRuns
import PortableSql.Proofs.SqlServer.NativeParameters
import PortableSql.Proofs.SqlServer.Numerics
import PortableSql.Proofs.SqlServer.Parameters
import PortableSql.Proofs.SqlServer.Rows
import PortableSql.Proofs.SqlServer.Wire
import PortableSql.Proofs.SqlServer.WireNumbers
import PortableSql.Proofs.Sqlite.ParameterTable
import PortableSql.Proofs.Sqlite.Parameters
import PortableSql.Proofs.Sqlite.PrintedText
import PortableSql.Proofs.Statement.Binding
import PortableSql.Proofs.Statement.Browsing
import PortableSql.Proofs.Statement.ColumnNames
import PortableSql.Proofs.Statement.Comparison
import PortableSql.Proofs.Statement.CurrentColumns
import PortableSql.Proofs.Statement.Cursor
import PortableSql.Proofs.Statement.Delivery
import PortableSql.Proofs.Statement.FreshStart
import PortableSql.Proofs.Statement.History
import PortableSql.Proofs.Statement.InPlace
import PortableSql.Proofs.Statement.LastBinding
import PortableSql.Proofs.Statement.Parameters
import PortableSql.Proofs.Statement.WantedKind
import PortableSql.Proofs.Statement.WideText
import PortableSql.Proofs.Text.LowerCase
import PortableSql.Proofs.Text.Numeral
import PortableSql.Proofs.Text.Utf16
import PortableSql.Proofs.Text.Utf8
import PortableSql.Proofs.Transaction.Client
import PortableSql.Proofs.Transaction.Exchange
import PortableSql.Proofs.Transaction.LockWait
import PortableSql.Proofs.Transaction.Mirror
import PortableSql.Proofs.Transaction.Release
import PortableSql.Proofs.Transaction.Servers
