import SqlWriter.Columns
import SqlWriter.CommandLine.Arguments
import SqlWriter.CommandLine.Run
import SqlWriter.Condition
import SqlWriter.Config
import SqlWriter.Config.Document
import SqlWriter.Error
import SqlWriter.Json.Text
import SqlWriter.Json.Value
import SqlWriter.Main
import SqlWriter.Number.Decimal
import SqlWriter.Number.Shortest
import SqlWriter.Number.Written
import SqlWriter.Proofs.Columns.Aliased
import SqlWriter.Proofs.Columns.Fault
import SqlWriter.Proofs.Columns.Listed
import SqlWriter.Proofs.Columns.Qualified
import SqlWriter.Proofs.Columns.Visible
import SqlWriter.Proofs.Condition.Alternatives
import SqlWriter.Proofs.Condition.Compared
import SqlWriter.Proofs.Condition.Conjunction
import SqlWriter.Proofs.Condition.Dotted
import SqlWriter.Proofs.Condition.Frontier
import SqlWriter.Proofs.Condition.Held
import SqlWriter.Proofs.Condition.Mapped
import SqlWriter.Proofs.Condition.Masked
import SqlWriter.Proofs.Condition.Meaning
import SqlWriter.Proofs.Condition.Spelled
import SqlWriter.Proofs.Condition.Token
import SqlWriter.Proofs.Dialect.Lexeme
import SqlWriter.Proofs.Dialect.Lexing
import SqlWriter.Proofs.Dialect.Skeleton
import SqlWriter.Proofs.Number.Decimal
import SqlWriter.Proofs.Number.Double
import SqlWriter.Proofs.Number.Numeral
import SqlWriter.Proofs.Number.Rounded
import SqlWriter.Proofs.Reference.Chained
import SqlWriter.Proofs.Reference.Flattened
import SqlWriter.Proofs.Reference.Pair
import SqlWriter.Proofs.Reference.Quoted
import SqlWriter.Proofs.Reference.Token
import SqlWriter.Proofs.Reference.Visible
import SqlWriter.Proofs.Request.Accepting
import SqlWriter.Proofs.Request.Asked
import SqlWriter.Proofs.Request.Decoding
import SqlWriter.Proofs.Request.Defaults
import SqlWriter.Proofs.Request.Encoding
import SqlWriter.Proofs.Request.Members
import SqlWriter.Proofs.Request.Narrowed
import SqlWriter.Proofs.Request.RoundTrip
import SqlWriter.Proofs.Request.Settings
import SqlWriter.Proofs.Shape.Alias
import SqlWriter.Proofs.Shape.Chain
import SqlWriter.Proofs.Shape.Exclusion
import SqlWriter.Proofs.Shape.FirstGroup
import SqlWriter.Proofs.Shape.Pattern
import SqlWriter.Proofs.Shape.Pieces
import SqlWriter.Proofs.Shape.QuotedName
import SqlWriter.Proofs.Shape.Wildcard
import SqlWriter.Proofs.Statement.Clause
import SqlWriter.Proofs.Statement.Counted
import SqlWriter.Proofs.Statement.Fault
import SqlWriter.Proofs.Statement.Fragment
import SqlWriter.Proofs.Statement.Pairing
import SqlWriter.Proofs.Statement.Row
import SqlWriter.Proofs.Statement.Spelled
import SqlWriter.Proofs.Statement.Visible
import SqlWriter.Proofs.Text.Quoted
import SqlWriter.Proofs.Value.Literal
import SqlWriter.Proofs.Value.Masked
import SqlWriter.Proofs.Value.Ordered
import SqlWriter.Proofs.Value.Spelled
import SqlWriter.Reference
import SqlWriter.Request
import SqlWriter.Request.Field
import SqlWriter.Request.Value
import SqlWriter.Shape.Alias
import SqlWriter.Shape.Call
import SqlWriter.Shape.Chain
import SqlWriter.Shape.Nesting
import SqlWriter.Shape.Pattern
import SqlWriter.Shape.Wildcard
import SqlWriter.Shape.Word
import SqlWriter.Statement
import SqlWriter.Statement.Change
import SqlWriter.Statement.Filter
import SqlWriter.Statement.Kind
import SqlWriter.Statement.Select
import SqlWriter.Text.Basic
import SqlWriter.Text.Blank
import SqlWriter.Text.Code
import SqlWriter.Text.Hidden
import SqlWriter.Text.Quoted
import SqlWriter.Text.Taken
import SqlWriter.Text.Visible
import SqlWriter.Value.Literal
import SqlWriter.Value.Record
import SqlWriter.Value.Scalar
