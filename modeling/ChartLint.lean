import ChartLint.Block.Statement
import ChartLint.Block.Tracker
import ChartLint.Catalog
import ChartLint.Catalog.Builtin
import ChartLint.Catalog.Descriptor
import ChartLint.Catalog.Error
import ChartLint.Catalog.Reading
import ChartLint.Catalog.Source
import ChartLint.Catalog.Suggestion
import ChartLint.Command
import ChartLint.Comment.Blank
import ChartLint.Comment.Strip
import ChartLint.Diagnostic
import ChartLint.Diagnostic.Code
import ChartLint.Instant
import ChartLint.Issue
import ChartLint.Json.Draft
import ChartLint.Json.Fault
import ChartLint.Json.Numeral
import ChartLint.Json.Token
import ChartLint.Json.Value
import ChartLint.Line.Keyword
import ChartLint.Line.Section
import ChartLint.Line.Setting
import ChartLint.LineIndex
import ChartLint.Main
import ChartLint.Number.Binary64
import ChartLint.Number.Decimal
import ChartLint.Number.Fixed
import ChartLint.Number.Shortest
import ChartLint.Pattern
import ChartLint.Pattern.CharSet
import ChartLint.Pattern.Parser
import ChartLint.Pattern.Token
import ChartLint.Position
import ChartLint.Proofs.Block.Disposal
import ChartLint.Proofs.Block.Grammar
import ChartLint.Proofs.Block.Nesting
import ChartLint.Proofs.Block.Relocate
import ChartLint.Proofs.Block.Run
import ChartLint.Proofs.Block.Source
import ChartLint.Proofs.Calendar
import ChartLint.Proofs.Catalog.Bounds
import ChartLint.Proofs.Catalog.Closed
import ChartLint.Proofs.Catalog.EditDistance
import ChartLint.Proofs.Catalog.Levels
import ChartLint.Proofs.Catalog.Resolve
import ChartLint.Proofs.Catalog.SourceLine
import ChartLint.Proofs.Catalog.Suggestion
import ChartLint.Proofs.Comment.Blank
import ChartLint.Proofs.Comment.Bytes
import ChartLint.Proofs.Comment.Indent
import ChartLint.Proofs.Comment.Line
import ChartLint.Proofs.Comment.Segment
import ChartLint.Proofs.Line.Place
import ChartLint.Proofs.LineIndex
import ChartLint.Proofs.Rule.Anchor
import ChartLint.Proofs.Rule.Check
import ChartLint.Proofs.Rule.Colors
import ChartLint.Proofs.Rule.Relocate
import ChartLint.Proofs.Scope.Grammar
import ChartLint.Proofs.Scope.Print
import ChartLint.Proofs.Section.Commit
import ChartLint.Proofs.Section.Depth
import ChartLint.Proofs.Section.Owed
import ChartLint.Proofs.Section.Relocate
import ChartLint.Proofs.Section.Tree
import ChartLint.Proofs.Section.Unmet
import ChartLint.Proofs.Text.Case
import ChartLint.Proofs.Text.Part
import ChartLint.Proofs.Validation.Body
import ChartLint.Proofs.Validation.Code
import ChartLint.Proofs.Validation.Context
import ChartLint.Proofs.Validation.Dates
import ChartLint.Proofs.Validation.Declared
import ChartLint.Proofs.Validation.Document
import ChartLint.Proofs.Validation.Ending
import ChartLint.Proofs.Validation.Event
import ChartLint.Proofs.Validation.Exchange
import ChartLint.Proofs.Validation.Indent
import ChartLint.Proofs.Validation.Inherited
import ChartLint.Proofs.Validation.Layered
import ChartLint.Proofs.Validation.Mark
import ChartLint.Proofs.Validation.Order
import ChartLint.Proofs.Validation.Paired
import ChartLint.Proofs.Validation.Place
import ChartLint.Proofs.Validation.Rejected
import ChartLint.Proofs.Validation.Relocate
import ChartLint.Proofs.Validation.Ruled
import ChartLint.Proofs.Validation.Same
import ChartLint.Proofs.Validation.Scan
import ChartLint.Proofs.Validation.Widget
import ChartLint.Proofs.Value.Case
import ChartLint.Proofs.Value.IsoDate
import ChartLint.Proofs.Value.Stamp
import ChartLint.Report
import ChartLint.Report.Record
import ChartLint.Rule
import ChartLint.Rule.Condition
import ChartLint.Rule.Relation
import ChartLint.Rule.Requirement
import ChartLint.Rule.View
import ChartLint.Scope
import ChartLint.Scope.Expr
import ChartLint.Scope.Parser
import ChartLint.Scope.Token
import ChartLint.Section.Stack
import ChartLint.Section.Tree
import ChartLint.Setting
import ChartLint.Table
import ChartLint.Text.Blank
import ChartLint.Text.Case
import ChartLint.Text.CaseFolding
import ChartLint.Text.Digit
import ChartLint.Text.Line
import ChartLint.Text.Phrase
import ChartLint.Text.Piece
import ChartLint.Text.Quoted
import ChartLint.Text.Size
import ChartLint.Text.Word
import ChartLint.Validation
import ChartLint.Validation.Scan
import ChartLint.Value.Check
import ChartLint.Value.Interval
import ChartLint.Value.IsoDate
import ChartLint.Value.Numeral
import ChartLint.Value.Percentile
import ChartLint.Value.Placeholder
import ChartLint.Value.Reference
import ChartLint.Proofs.Block.Names
import ChartLint.Proofs.Validation.Remark
import ChartLint.Proofs.Block.Rows
import ChartLint.Proofs.Validation.Rows
import ChartLint.Proofs.Validation.Grouped
import ChartLint.Proofs.Validation.Accepted
import ChartLint.Proofs.Validation.Exclusion
import ChartLint.Proofs.Rule.Scope
