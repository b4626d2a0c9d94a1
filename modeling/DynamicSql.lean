import DynamicSql.Calendar.Date
import DynamicSql.Calendar.DateTime
import DynamicSql.Calendar.Reader
import DynamicSql.Document.Body
import DynamicSql.Document.Include
import DynamicSql.Document.Reader
import DynamicSql.Document.ResultMap
import DynamicSql.Document.Setting
import DynamicSql.Error
import DynamicSql.Execution
import DynamicSql.Expr.Basic
import DynamicSql.Expr.Evaluation
import DynamicSql.Expr.Reader
import DynamicSql.Expr.Token
import DynamicSql.Fields
import DynamicSql.FileTree
import DynamicSql.Json.Basic
import DynamicSql.Json.Extraction
import DynamicSql.Json.Printer
import DynamicSql.Json.Reader
import DynamicSql.Mapper.Basic
import DynamicSql.Mapper.Chain
import DynamicSql.Mapper.Identifier
import DynamicSql.Mapper.ResultMap
import DynamicSql.Mapper.Statement
import DynamicSql.Mapper.StatementKind
import DynamicSql.Markup.Attribute
import DynamicSql.Markup.Element
import DynamicSql.Markup.Entity
import DynamicSql.Markup.Event
import DynamicSql.Markup.Lexeme
import DynamicSql.Markup.Reader
import DynamicSql.Markup.Tree
import DynamicSql.Markup.Writer
import DynamicSql.Number.Binary64
import DynamicSql.Number.Decimal
import DynamicSql.Number.Notation
import DynamicSql.Number.Shortest
import DynamicSql.Path
import DynamicSql.Projection.Column
import DynamicSql.Projection.Group
import DynamicSql.Projection.Record
import DynamicSql.Proofs.Document.Attribution
import DynamicSql.Proofs.Document.Compilation
import DynamicSql.Proofs.Document.Declaration
import DynamicSql.Proofs.Document.Expansion
import DynamicSql.Proofs.Document.Inlining
import DynamicSql.Proofs.Document.Inventory
import DynamicSql.Proofs.Document.Parametric
import DynamicSql.Proofs.Document.Splicing
import DynamicSql.Proofs.Execution.Decisions
import DynamicSql.Proofs.Execution.Leniency
import DynamicSql.Proofs.Execution.Rejection
import DynamicSql.Proofs.Execution.TwoPhase
import DynamicSql.Proofs.Execution.Verbatim
import DynamicSql.Proofs.Expr.Comparisons
import DynamicSql.Proofs.Expr.Grammar
import DynamicSql.Proofs.Expr.Integers
import DynamicSql.Proofs.Expr.Lexing
import DynamicSql.Proofs.Expr.Paths
import DynamicSql.Proofs.Expr.RunningSums
import DynamicSql.Proofs.Expr.Substitution
import DynamicSql.Proofs.Expr.Sums
import DynamicSql.Proofs.Expr.Writing
import DynamicSql.Proofs.Json.Separation
import DynamicSql.Proofs.Mapper.Layers
import DynamicSql.Proofs.Markup.Encoding
import DynamicSql.Proofs.Markup.Merging
import DynamicSql.Proofs.Markup.Nesting
import DynamicSql.Proofs.Markup.RoundTrip
import DynamicSql.Proofs.Markup.Tags
import DynamicSql.Proofs.Number.Numeral
import DynamicSql.Proofs.Number.Rounding
import DynamicSql.Proofs.Outcome
import DynamicSql.Proofs.Path.Grammar
import DynamicSql.Proofs.Path.Writing
import DynamicSql.Proofs.Projection.Children
import DynamicSql.Proofs.Projection.Comparison
import DynamicSql.Proofs.Projection.Depth
import DynamicSql.Proofs.Projection.Folding
import DynamicSql.Proofs.Projection.Gathering
import DynamicSql.Proofs.Projection.Grouping
import DynamicSql.Proofs.Projection.Independence
import DynamicSql.Proofs.Projection.Keys
import DynamicSql.Proofs.Projection.Nesting
import DynamicSql.Proofs.Projection.Overriding
import DynamicSql.Proofs.Projection.Presence
import DynamicSql.Proofs.Projection.Properties
import DynamicSql.Proofs.Projection.Skipping
import DynamicSql.Proofs.Projection.Termination
import DynamicSql.Proofs.Registry.Addressing
import DynamicSql.Proofs.Registry.Flattening
import DynamicSql.Proofs.Registry.Fragments
import DynamicSql.Proofs.Registry.History
import DynamicSql.Proofs.Registry.Inherited
import DynamicSql.Proofs.Registry.Reachability
import DynamicSql.Proofs.Registry.Reloading
import DynamicSql.Proofs.Registry.Resolution
import DynamicSql.Proofs.Registry.Usage
import DynamicSql.Proofs.Template.Bindings
import DynamicSql.Proofs.Template.Direct
import DynamicSql.Proofs.Template.Dressing
import DynamicSql.Proofs.Template.Joining
import DynamicSql.Proofs.Template.Locality
import DynamicSql.Proofs.Template.Lockstep
import DynamicSql.Proofs.Template.Marking
import DynamicSql.Proofs.Template.Partition
import DynamicSql.Proofs.Template.Placement
import DynamicSql.Proofs.Template.Reading
import DynamicSql.Proofs.Template.Repetition
import DynamicSql.Proofs.Template.Requirement
import DynamicSql.Proofs.Template.Scoping
import DynamicSql.Proofs.Template.Sign
import DynamicSql.Proofs.Template.Simulation
import DynamicSql.Proofs.Text.Blanks
import DynamicSql.Proofs.Text.Case
import DynamicSql.Proofs.Value.Coercion
import DynamicSql.Proofs.Value.Equality
import DynamicSql.Proofs.Value.JsonForm
import DynamicSql.Proofs.Value.Relations
import DynamicSql.Registry.Basic
import DynamicSql.Registry.Inheritance
import DynamicSql.Registry.Loading
import DynamicSql.Settings
import DynamicSql.Template.Clause
import DynamicSql.Template.Draft
import DynamicSql.Template.Node
import DynamicSql.Template.Placeholder
import DynamicSql.Template.Rendering
import DynamicSql.Template.StaticText
import DynamicSql.Text.Alphanumeric
import DynamicSql.Text.Blank
import DynamicSql.Text.LetterCase
import DynamicSql.Text.Split
import DynamicSql.Value.Basic
import DynamicSql.Value.Coercion
import DynamicSql.Value.Comparison
import DynamicSql.Value.Conversion
import DynamicSql.Value.Extraction
import DynamicSql.Value.Scalar
