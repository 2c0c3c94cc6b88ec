import RecordFilter.Arena
import RecordFilter.Composer
import RecordFilter.Composer.Offer
import RecordFilter.Composition
import RecordFilter.Condition
import RecordFilter.Condition.Text
import RecordFilter.Connector
import RecordFilter.Entity
import RecordFilter.Error
import RecordFilter.Execution
import RecordFilter.Filter
import RecordFilter.Filter.Draft
import RecordFilter.Filter.Pattern
import RecordFilter.Filter.Predicate
import RecordFilter.Filter.Range
import RecordFilter.Identifier
import RecordFilter.JoinClause
import RecordFilter.JoinKind
import RecordFilter.Path
import RecordFilter.Proofs.Composer.Acceptance
import RecordFilter.Proofs.Composer.Inputs
import RecordFilter.Proofs.Composer.Omission
import RecordFilter.Proofs.Composer.Order
import RecordFilter.Proofs.Composer.Range
import RecordFilter.Proofs.Condition.Atom
import RecordFilter.Proofs.Condition.Evaluation
import RecordFilter.Proofs.Condition.Grammar
import RecordFilter.Proofs.Condition.Named
import RecordFilter.Proofs.Condition.Numbering
import RecordFilter.Proofs.Condition.Phrase
import RecordFilter.Proofs.Condition.Reading
import RecordFilter.Proofs.Condition.Template
import RecordFilter.Proofs.Condition.Token
import RecordFilter.Proofs.Condition.Truth
import RecordFilter.Proofs.Entity
import RecordFilter.Proofs.Entity.Check
import RecordFilter.Proofs.Entity.KeyField
import RecordFilter.Proofs.Filter.Draft
import RecordFilter.Proofs.Filter.Negation
import RecordFilter.Proofs.Filter.Placement
import RecordFilter.Proofs.Filter.RangeTable
import RecordFilter.Proofs.Identifier
import RecordFilter.Proofs.Outcome
import RecordFilter.Proofs.Path
import RecordFilter.Proofs.Path.RoundTrip
import RecordFilter.Proofs.Record.Conformity
import RecordFilter.Proofs.Record.Grammar
import RecordFilter.Proofs.Record.Layout
import RecordFilter.Proofs.Record.Metadata
import RecordFilter.Proofs.Record.Reading
import RecordFilter.Proofs.Record.Requirement
import RecordFilter.Proofs.Registry
import RecordFilter.Proofs.Registry.Runs
import RecordFilter.Proofs.Scope.Binding
import RecordFilter.Proofs.Scope.Destination
import RecordFilter.Proofs.Scope.Growth
import RecordFilter.Proofs.Scope.History
import RecordFilter.Proofs.Scope.Independence
import RecordFilter.Proofs.Scope.Reachable
import RecordFilter.Proofs.Scope.Sharing
import RecordFilter.Proofs.Scope.Source
import RecordFilter.Proofs.Arena.Reachable
import RecordFilter.Proofs.Arena.Refinement
import RecordFilter.Proofs.Arena.Scope
import RecordFilter.Proofs.Arena.Tree
import RecordFilter.Proofs.Specification.Alike
import RecordFilter.Proofs.Specification.Built
import RecordFilter.Proofs.Specification.Connection
import RecordFilter.Proofs.Specification.Distinct
import RecordFilter.Proofs.Specification.Fetched
import RecordFilter.Proofs.Specification.Independence
import RecordFilter.Proofs.Specification.Joins
import RecordFilter.Proofs.Specification.Meaning
import RecordFilter.Proofs.Specification.NullChecks
import RecordFilter.Proofs.Specification.Ordering
import RecordFilter.Proofs.Specification.Outline
import RecordFilter.Proofs.Specification.Query
import RecordFilter.Proofs.Specification.RangeColumn
import RecordFilter.Proofs.Specification.Readable
import RecordFilter.Proofs.Specification.Regrouping
import RecordFilter.Proofs.Specification.Scoped
import RecordFilter.Proofs.Specification.Truth
import RecordFilter.Proofs.Specification.Valuation
import RecordFilter.Proofs.Specification.Wording
import RecordFilter.Proofs.Statement.Labels
import RecordFilter.Proofs.Statement.Outputs
import RecordFilter.Proofs.Statement.Quoting
import RecordFilter.Proofs.Statement.Scoping
import RecordFilter.Proofs.Statement.Select
import RecordFilter.Proofs.Statement.Template
import RecordFilter.Proofs.Statement.Unquoted
import RecordFilter.Record.Annotation
import RecordFilter.Record.Comment
import RecordFilter.Record.Expansion
import RecordFilter.Record.Fault
import RecordFilter.Record.Lexeme
import RecordFilter.Record.Literal
import RecordFilter.Record.Marks
import RecordFilter.Record.Number
import RecordFilter.Record.Token
import RecordFilter.Record.Token.Lexer
import RecordFilter.Record.TypeText
import RecordFilter.Registry
import RecordFilter.Row
import RecordFilter.Schema
import RecordFilter.Scope
import RecordFilter.Scope.Walk
import RecordFilter.Settings
import RecordFilter.Settings.Document
import RecordFilter.Specification
import RecordFilter.Statement
import RecordFilter.Text.Blank
import RecordFilter.Text.CharRun
import RecordFilter.Text.Dotted
import RecordFilter.Text.Keyed
import RecordFilter.Text.NameChar
import RecordFilter.Text.Uppercase
import RecordFilter.Value
