import StreamQuery.Session
import StreamQuery.Settings.OfToml
import StreamQuery.Proofs.Response.Lines
import StreamQuery.Proofs.Dispatch.SlotAccounts
import StreamQuery.Proofs.Dispatch.Schedule
import StreamQuery.Proofs.Dispatch.Reading
import StreamQuery.Proofs.Dispatch.Chronicle
import StreamQuery.Proofs.Dispatch.Delivery
import StreamQuery.Proofs.Statement.LiteralScan
import StreamQuery.Proofs.Results
import StreamQuery.Proofs.Statement.ExprScan
import StreamQuery.Proofs.Statement.SelectScan
import StreamQuery.Proofs.Statement.StatementScan
import StreamQuery.Proofs.Json.Extension
import StreamQuery.Proofs.Client.Rows
import StreamQuery.Proofs.Client.Sheet
import StreamQuery.Proofs.Dispatch.Collection
import StreamQuery.Proofs.Dispatch.Sending
import StreamQuery.Proofs.Client.Pull
import StreamQuery.Proofs.Dispatch.Served
import StreamQuery.Proofs.Dispatch.WholeStream
import StreamQuery.Proofs.Dispatch.Taking
import StreamQuery.Proofs.Client.Consumer
import StreamQuery.Proofs.Client.Agreement
import StreamQuery.Proofs.Dispatch.Standstill
import StreamQuery.Proofs.Dispatch.WakeUps
import StreamQuery.Proofs.Keyed
import StreamQuery.Proofs.ColumnType.TypeText
import StreamQuery.Proofs.Schema.ColumnList
import StreamQuery.Proofs.Schema.ReportedBack
import StreamQuery.Proofs.Decimal.Representable
import StreamQuery.Proofs.Record.TypedValue
import StreamQuery.Proofs.Record.InsertedRow
import StreamQuery.Proofs.Record.RoundTrip
import StreamQuery.Proofs.Expr.Parts
import StreamQuery.Proofs.Statement.Nodes
import StreamQuery.Proofs.Statement.BadNode
import StreamQuery.Proofs.Expr.Erasure
import StreamQuery.Proofs.Text.Reading
import StreamQuery.Proofs.Literal.Reader
import StreamQuery.Proofs.Expr.Reader
import StreamQuery.Proofs.Expr.ReadBack
import StreamQuery.Proofs.Expr.Unambiguous
import StreamQuery.Proofs.Dispatch.Retries
import StreamQuery.Proofs.Dispatch.NextLine
import StreamQuery.Proofs.Record.ByName
import StreamQuery.Proofs.Client.Registrations
import StreamQuery.Proofs.Dispatch.FinalMarker
import StreamQuery.Proofs.Dispatch.LineLimit
import StreamQuery.Proofs.ColumnType.AnyCase
import StreamQuery.Proofs.Schema.HeaderColumns
import StreamQuery.Proofs.Record.Undeclared
import StreamQuery.Proofs.Record.Conversions
import StreamQuery.Proofs.Statement.Joins
import StreamQuery.Proofs.Dispatch.Line
import StreamQuery.Proofs.Dispatch.ServiceOrder
import StreamQuery.Proofs.Dispatch.Refusals
import StreamQuery.Proofs.ColumnType.Grammar
import StreamQuery.Proofs.Expr.LiteralOperands
import StreamQuery.Proofs.Statement.Filters
import StreamQuery.Proofs.Decimal.ShortestDigits
import StreamQuery.Proofs.Literal.DoubleText
import StreamQuery.Proofs.Schema.Differences
import StreamQuery.Proofs.Statement.InsertColumns
import StreamQuery.Proofs.Statement.Aggregates
import StreamQuery.Proofs.Record.Absence
import StreamQuery.Proofs.Text.Words
import StreamQuery.Proofs.Window.DurationText
import StreamQuery.Proofs.Dispatch.InheritedContexts
import StreamQuery.Proofs.Dispatch.WholeResponse
import StreamQuery.Proofs.Statement.DeclaredRelations
import StreamQuery.Proofs.Schema.Offers
