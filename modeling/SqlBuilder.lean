import SqlBuilder.BuildError
import SqlBuilder.CommandLine.Arguments
import SqlBuilder.CommandLine.Run
import SqlBuilder.Condition.Basic
import SqlBuilder.Condition.Group
import SqlBuilder.DataType
import SqlBuilder.Dialect.Basic
import SqlBuilder.Dialect.BuiltIn
import SqlBuilder.Draft
import SqlBuilder.Execution.Connection
import SqlBuilder.Execution.Database
import SqlBuilder.Execution.Event
import SqlBuilder.Expr.Basic
import SqlBuilder.Expr.Write
import SqlBuilder.Main
import SqlBuilder.Number.Binary64
import SqlBuilder.Number.FloatText
import SqlBuilder.Number.ShortestDecimal
import SqlBuilder.Proofs.Condition.Faithful
import SqlBuilder.Proofs.Condition.Grammar
import SqlBuilder.Proofs.Condition.Grammatical
import SqlBuilder.Proofs.Condition.Growth
import SqlBuilder.Proofs.Condition.Leaves
import SqlBuilder.Proofs.Condition.Truth
import SqlBuilder.Proofs.Condition.Value
import SqlBuilder.Proofs.Containment
import SqlBuilder.Proofs.Drafting.Batch
import SqlBuilder.Proofs.Drafting.Commuting
import SqlBuilder.Proofs.Drafting.Conversation
import SqlBuilder.Proofs.Drafting.Definition
import SqlBuilder.Proofs.Drafting.Draft
import SqlBuilder.Proofs.Drafting.Forms
import SqlBuilder.Proofs.Drafting.Lifecycle
import SqlBuilder.Proofs.Drafting.Parallel
import SqlBuilder.Proofs.Drafting.Refusable
import SqlBuilder.Proofs.Drafting.Refusal
import SqlBuilder.Proofs.Drafting.Translation
import SqlBuilder.Proofs.Execution.Alteration
import SqlBuilder.Proofs.Execution.Chronicle
import SqlBuilder.Proofs.Execution.Conclusion
import SqlBuilder.Proofs.Execution.Delivery
import SqlBuilder.Proofs.Execution.Handover
import SqlBuilder.Proofs.Execution.Ledger
import SqlBuilder.Proofs.Execution.Submission
import SqlBuilder.Proofs.Execution.Transfer
import SqlBuilder.Proofs.Execution.Watching
import SqlBuilder.Proofs.Failure
import SqlBuilder.Proofs.Itemized
import SqlBuilder.Proofs.Legality.DottedName
import SqlBuilder.Proofs.Legality.Expr
import SqlBuilder.Proofs.Legality.Insert
import SqlBuilder.Proofs.Legality.Reference
import SqlBuilder.Proofs.Legality.Select
import SqlBuilder.Proofs.Lossless.Condition
import SqlBuilder.Proofs.Lossless.Expr
import SqlBuilder.Proofs.Lossless.Legible
import SqlBuilder.Proofs.Lossless.Literal
import SqlBuilder.Proofs.Lossless.Select
import SqlBuilder.Proofs.Lossless.Statement
import SqlBuilder.Proofs.Number.DecimalText
import SqlBuilder.Proofs.Number.Interval
import SqlBuilder.Proofs.Number.Numeral
import SqlBuilder.Proofs.Number.Rounding
import SqlBuilder.Proofs.Number.Shortest
import SqlBuilder.Proofs.Pieces.Condition
import SqlBuilder.Proofs.Pieces.Expr
import SqlBuilder.Proofs.Pieces.Fragment
import SqlBuilder.Proofs.Pieces.Realizes
import SqlBuilder.Proofs.Pieces.Rows
import SqlBuilder.Proofs.Pieces.Schema
import SqlBuilder.Proofs.Pieces.Statement
import SqlBuilder.Proofs.Placeholders
import SqlBuilder.Proofs.Reading.Condition
import SqlBuilder.Proofs.Reading.Delimited
import SqlBuilder.Proofs.Reading.Nesting
import SqlBuilder.Proofs.Reading.Number
import SqlBuilder.Proofs.Reading.Quoted
import SqlBuilder.Proofs.Reading.Region
import SqlBuilder.Proofs.Reading.Token
import SqlBuilder.Proofs.Script
import SqlBuilder.Proofs.Spelling.Call
import SqlBuilder.Proofs.Spelling.Closed
import SqlBuilder.Proofs.Spelling.Condition
import SqlBuilder.Proofs.Spelling.Expr
import SqlBuilder.Proofs.Spelling.Numbering
import SqlBuilder.Proofs.Spelling.Regular
import SqlBuilder.Proofs.Spelling.Rows
import SqlBuilder.Proofs.Spelling.Schema
import SqlBuilder.Proofs.Spelling.Sound
import SqlBuilder.Proofs.Success
import SqlBuilder.Proofs.Symbols.Basic
import SqlBuilder.Proofs.Symbols.Condition
import SqlBuilder.Proofs.Symbols.Draft
import SqlBuilder.Proofs.Symbols.Expr
import SqlBuilder.Proofs.Symbols.Select
import SqlBuilder.Proofs.Symbols.Statement
import SqlBuilder.Proofs.Workload.Course
import SqlBuilder.Proofs.Workload.Interruption
import SqlBuilder.Proofs.Workload.Planets
import SqlBuilder.Proofs.Workload.Run
import SqlBuilder.Rows.Insert
import SqlBuilder.Rows.Select
import SqlBuilder.Schema.AlterTable
import SqlBuilder.Schema.Column
import SqlBuilder.Schema.CreateIndex
import SqlBuilder.Schema.CreateTable
import SqlBuilder.Schema.DropTable
import SqlBuilder.Session
import SqlBuilder.Text.DottedName
import SqlBuilder.Text.Escaped
import SqlBuilder.Text.Quoted
import SqlBuilder.Text.Visible
import SqlBuilder.Value
import SqlBuilder.Workload.Basic
import SqlBuilder.Workload.Planets
import SqlBuilder.Writer
