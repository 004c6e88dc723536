import QueryShape.Attempt
import QueryShape.Command.Arguments
import QueryShape.Command.Execution
import QueryShape.Command.Invocation
import QueryShape.Diagnostic
import QueryShape.Issue
import QueryShape.Json.Assembly
import QueryShape.Json.Document
import QueryShape.Json.Number
import QueryShape.Json.Ordered
import QueryShape.Json.Reading
import QueryShape.Json.Results
import QueryShape.Json.Token
import QueryShape.Json.Value
import QueryShape.Json.Writer
import QueryShape.Keyed
import QueryShape.Main
import QueryShape.Number.Double
import QueryShape.Number.Rounding
import QueryShape.Number.Shortest
import QueryShape.Path
import QueryShape.Pattern.Basic
import QueryShape.Pattern.Bracket
import QueryShape.Pattern.Engine
import QueryShape.Pattern.Expression
import QueryShape.Pattern.Flags
import QueryShape.Pattern.Limits
import QueryShape.Pattern.Matching
import QueryShape.Pattern.Parser
import QueryShape.Pattern.Plan
import QueryShape.Pattern.Size
import QueryShape.Proofs.Attempt
import QueryShape.Proofs.IssuesDocument
import QueryShape.Proofs.Json.Floats
import QueryShape.Proofs.Json.Numerals
import QueryShape.Proofs.Json.Ordered
import QueryShape.Proofs.Json.Room
import QueryShape.Proofs.Json.Sized
import QueryShape.Proofs.Json.Texts
import QueryShape.Proofs.Json.Written
import QueryShape.Proofs.Keyed
import QueryShape.Proofs.Number.Order
import QueryShape.Proofs.Number.Rounding
import QueryShape.Proofs.Number.WholeNumbers
import QueryShape.Proofs.PathText
import QueryShape.Proofs.Place
import QueryShape.Proofs.Pattern.Groups
import QueryShape.Proofs.Query.Batch
import QueryShape.Proofs.Query.Compile
import QueryShape.Proofs.Query.CompiledForm
import QueryShape.Proofs.Query.Conformance
import QueryShape.Proofs.Query.Construction
import QueryShape.Proofs.Query.Demands
import QueryShape.Proofs.Query.Determinacy
import QueryShape.Proofs.Query.Entities
import QueryShape.Proofs.Query.Errors
import QueryShape.Proofs.Query.Execution
import QueryShape.Proofs.Query.Idempotence
import QueryShape.Proofs.Query.Lockstep
import QueryShape.Proofs.Query.MergeOrder
import QueryShape.Proofs.Query.MergedPaths
import QueryShape.Proofs.Query.Merging
import QueryShape.Proofs.Query.Normal
import QueryShape.Proofs.Query.Obtained
import QueryShape.Proofs.Query.Outline
import QueryShape.Proofs.Query.Prefix
import QueryShape.Proofs.Query.Records
import QueryShape.Proofs.Query.Reordering
import QueryShape.Proofs.Query.Reshape
import QueryShape.Proofs.Query.Run
import QueryShape.Proofs.Query.SelectionDocument
import QueryShape.Proofs.Query.SelectionOrder
import QueryShape.Proofs.Query.Spec
import QueryShape.Proofs.Query.SpecDocument
import QueryShape.Proofs.Query.Steps
import QueryShape.Proofs.Query.Tidied
import QueryShape.Proofs.Query.Truncation
import QueryShape.Proofs.Query.Trust
import QueryShape.Proofs.Query.Unselected
import QueryShape.Proofs.Query.Visits
import QueryShape.Proofs.Relation.GraphDocument
import QueryShape.Proofs.Relation.Walks
import QueryShape.Proofs.Schema.Accepts
import QueryShape.Proofs.Schema.Bounds
import QueryShape.Proofs.Schema.Checked
import QueryShape.Proofs.Schema.Conforming
import QueryShape.Proofs.Schema.Describes
import QueryShape.Proofs.Schema.Faults
import QueryShape.Proofs.Schema.Issues
import QueryShape.Proofs.Schema.Levels
import QueryShape.Proofs.Schema.Obtained
import QueryShape.Proofs.Schema.Reports
import QueryShape.Proofs.Schema.SchemaDocument
import QueryShape.Proofs.Schema.Unfolding
import QueryShape.Proofs.Text.Address
import QueryShape.Proofs.Text.Decimal
import QueryShape.Proofs.Text.Extent
import QueryShape.Proofs.Text.Formats
import QueryShape.Query.Catalog
import QueryShape.Query.Compile
import QueryShape.Query.Failure
import QueryShape.Query.Reshape
import QueryShape.Query.Run
import QueryShape.Query.Selection
import QueryShape.Query.Selection.Wire
import QueryShape.Query.Spec
import QueryShape.Query.Spec.Wire
import QueryShape.Relation.Graph
import QueryShape.Relation.Wire
import QueryShape.Schema.Basic
import QueryShape.Schema.Check
import QueryShape.Schema.Failure
import QueryShape.Schema.PatternEngine
import QueryShape.Schema.Relations
import QueryShape.Schema.Validator
import QueryShape.Schema.Wire
import QueryShape.Text.Address
import QueryShape.Text.Blank
import QueryShape.Text.Folding
import QueryShape.Text.Format
import QueryShape.Text.Hidden
import QueryShape.Text.Numeral
import QueryShape.Text.Quoted
import QueryShape.Text.Ranges
import QueryShape.Text.Recent
import QueryShape.Text.Utf8
import QueryShape.Text.Word
