/-
This library keeps typed records in SQL tables: values and their conversions, the statements
that store and fetch records, and the reading of result rows back into records.
-/

import SqlRecords.Calendar.Date
import SqlRecords.Calendar.DateTime
import SqlRecords.Calendar.Reader
import SqlRecords.Calendar.Time
import SqlRecords.Declaration
import SqlRecords.Declaration.Attribute
import SqlRecords.Declaration.Written
import SqlRecords.Endpoint
import SqlRecords.Error
import SqlRecords.Expression
import SqlRecords.Formula
import SqlRecords.Log
import SqlRecords.Mysql.Cell
import SqlRecords.Mysql.Connect
import SqlRecords.Number.Decimal
import SqlRecords.Number.Decimal.Floating
import SqlRecords.Number.Decimal.Reader
import SqlRecords.Number.Floating
import SqlRecords.Number.FloatingText
import SqlRecords.Number.Integer
import SqlRecords.Number.Shortest
import SqlRecords.Proofs.Calendar.Around
import SqlRecords.Proofs.Calendar.DayNumber
import SqlRecords.Proofs.Calendar.Element
import SqlRecords.Proofs.Calendar.Instant
import SqlRecords.Proofs.Calendar.Marks
import SqlRecords.Proofs.Calendar.OwnText
import SqlRecords.Proofs.Calendar.Spelling
import SqlRecords.Proofs.Declaration.FieldColumn
import SqlRecords.Proofs.Declaration.TableNames
import SqlRecords.Proofs.Endpoint.Credentials
import SqlRecords.Proofs.Endpoint.Server
import SqlRecords.Proofs.Formula
import SqlRecords.Proofs.Mysql.CharacterCell
import SqlRecords.Proofs.Mysql.DecimalCell
import SqlRecords.Proofs.Mysql.IntegerCell
import SqlRecords.Proofs.Mysql.TemporalCell
import SqlRecords.Proofs.Number.DecimalRounding
import SqlRecords.Proofs.Number.DecimalText
import SqlRecords.Proofs.Number.IntegerText
import SqlRecords.Proofs.Record.Materialization
import SqlRecords.Proofs.Record.OwnRow
import SqlRecords.Proofs.Record.StoredRow
import SqlRecords.Proofs.Record.WholeNumberField
import SqlRecords.Proofs.Results
import SqlRecords.Proofs.Session.Aggregation
import SqlRecords.Proofs.Session.Connection
import SqlRecords.Proofs.Session.Fetching
import SqlRecords.Proofs.Session.Submission
import SqlRecords.Proofs.Sql.Appending
import SqlRecords.Proofs.Sql.Backslash
import SqlRecords.Proofs.Sql.CommentOpeners
import SqlRecords.Proofs.Sql.ConditionGrouping
import SqlRecords.Proofs.Sql.ConditionReader
import SqlRecords.Proofs.Sql.InsertStatement
import SqlRecords.Proofs.Sql.KeyedStatement
import SqlRecords.Proofs.Sql.LiteralLeaf
import SqlRecords.Proofs.Sql.LiteralReadBack
import SqlRecords.Proofs.Sql.NullComparison
import SqlRecords.Proofs.Sql.SelectStatement
import SqlRecords.Proofs.Sql.Separated
import SqlRecords.Proofs.Sql.StringReader
import SqlRecords.Proofs.Sql.TupleReader
import SqlRecords.Proofs.Sql.UniqueReading
import SqlRecords.Proofs.Sql.WhereCondition
import SqlRecords.Proofs.Sql.Writing
import SqlRecords.Proofs.Text.Blank
import SqlRecords.Proofs.Text.Digits
import SqlRecords.Proofs.Text.Excerpt
import SqlRecords.Proofs.Text.Split
import SqlRecords.Proofs.Text.Utf8
import SqlRecords.Proofs.Url.Path
import SqlRecords.Proofs.Url.Percent
import SqlRecords.Proofs.Url.PlainHost
import SqlRecords.Proofs.UuidText
import SqlRecords.Proofs.Value.OwnType
import SqlRecords.Proofs.Value.PrintedMoment
import SqlRecords.Proofs.Value.ShownText
import SqlRecords.Proofs.Value.StoredType
import SqlRecords.Proofs.Value.UniversalTime
import SqlRecords.Proofs.Value.WholeNumber
import SqlRecords.Proofs.Value.ZonedInstant
import SqlRecords.Query
import SqlRecords.Record
import SqlRecords.Row
import SqlRecords.Samples
import SqlRecords.Session
import SqlRecords.Session.Results
import SqlRecords.Source.AttributeGrammar
import SqlRecords.Source.BlockGrammar
import SqlRecords.Source.BoundGrammar
import SqlRecords.Source.ExpressionGrammar
import SqlRecords.Source.FunctionGrammar
import SqlRecords.Source.Grammar
import SqlRecords.Source.ItemGrammar
import SqlRecords.Source.Literal
import SqlRecords.Source.OperatorTree
import SqlRecords.Source.PathGrammar
import SqlRecords.Source.PatternGrammar
import SqlRecords.Source.ReaderStack
import SqlRecords.Source.RecordGrammar
import SqlRecords.Source.Scan
import SqlRecords.Source.StatementGrammar
import SqlRecords.Source.Token
import SqlRecords.Source.TypeGrammar
import SqlRecords.Sql.Literal
import SqlRecords.Sql.Modify
import SqlRecords.Sql.Predicate
import SqlRecords.Sql.Select
import SqlRecords.Sql.Writer
import SqlRecords.Table
import SqlRecords.Text.Blank
import SqlRecords.Text.CodeRange
import SqlRecords.Text.Digits
import SqlRecords.Text.Excerpt
import SqlRecords.Text.LowerCase
import SqlRecords.Text.Quoted
import SqlRecords.Text.Shown
import SqlRecords.Text.Split
import SqlRecords.Text.Utf8
import SqlRecords.Text.Word
import SqlRecords.Url
import SqlRecords.Url.Domain
import SqlRecords.Url.Ipv4
import SqlRecords.Url.Ipv6
import SqlRecords.Url.Percent
import SqlRecords.Url.Punycode
import SqlRecords.Uuid
import SqlRecords.Value
import SqlRecords.Value.Conversion
import SqlRecords.Value.Tag
