import SqlSelect.Text.InversionList
import SqlSelect.Text.Blank
import SqlSelect.Text.Alphanumeric
import SqlSelect.Text.LetterCase
import SqlSelect.Text.Lowering
import SqlSelect.Text.Printable
import SqlSelect.Text.Quoted
import SqlSelect.Decimal.Shortest
import SqlSelect.Decimal.Layout
import SqlSelect.Decimal.Double
import SqlSelect.Json.Basic
import SqlSelect.Json.Reader
import SqlSelect.Json.Number
import SqlSelect.Value.Basic
import SqlSelect.Value.Literal
import SqlSelect.Value.Json
import SqlSelect.Placeholder
import SqlSelect.Identifier
import SqlSelect.Statement
import SqlSelect.Error
import SqlSelect.Query.Component
import SqlSelect.Query.Source
import SqlSelect.Query.Condition
import SqlSelect.Query.Join
import SqlSelect.Query.Clause
import SqlSelect.Query.Store
import SqlSelect.Query.Basic
import SqlSelect.Query.Builder
import SqlSelect.Inflection
import SqlSelect.Event
import SqlSelect.Expansion
import SqlSelect.Dialect
import SqlSelect.Emission
import SqlSelect.Handler
import SqlSelect.Compiler.Basic
import SqlSelect.Compiler.Condition
import SqlSelect.Compiler.Select
import SqlSelect.Compiler.Compilation
import SqlSelect.Diagnostic
import SqlSelect.Config
import SqlSelect.Proofs.Scanning
import SqlSelect.Proofs.Quoting
import SqlSelect.Proofs.Literal
import SqlSelect.Proofs.Tree
import SqlSelect.Proofs.Expansion
import SqlSelect.Proofs.Payload
import SqlSelect.Proofs.Erasure
import SqlSelect.Proofs.Emission
import SqlSelect.Proofs.Assembly
import SqlSelect.Proofs.Draft
import SqlSelect.Proofs.Tracking
import SqlSelect.Proofs.Refinement
import SqlSelect.Proofs.Inlining
import SqlSelect.Proofs.Noninterference
import SqlSelect.Proofs.Numbering
import SqlSelect.Proofs.Balance
import SqlSelect.Proofs.Reachability
import SqlSelect.Proofs.DeepJoins
import SqlSelect.Proofs.Repetition
import SqlSelect.Proofs.Calls
import SqlSelect.Proofs.Arrangement
import SqlSelect.Proofs.Ledger
import SqlSelect.Proofs.Posting
import SqlSelect.Proofs.DialectAgreement
import SqlSelect.Proofs.Faults
import SqlSelect.Proofs.Writability
import SqlSelect.Proofs.BuilderErrors
import SqlSelect.Proofs.Containment
import SqlSelect.Proofs.BuilderRecord
import SqlSelect.Proofs.Histories
import SqlSelect.Proofs.Lexing
import SqlSelect.Proofs.References
import SqlSelect.Proofs.PredicateReading
import SqlSelect.Proofs.PredicateMeaning
import SqlSelect.Proofs.CompoundRows
import SqlSelect.Proofs.CompoundSelects
import SqlSelect.Proofs.FailedExpansion
import SqlSelect.Proofs.Trimming
import SqlSelect.Proofs.NameDecoding
import SqlSelect.Proofs.NameSplitting
import SqlSelect.Proofs.RootNames
import SqlSelect.Proofs.Template
import SqlSelect.Proofs.Composition
import SqlSelect.Proofs.Replacement
import SqlSelect.Proofs.Renumbering
import SqlSelect.Proofs.Suppression
import SqlSelect.Proofs.Vacuity
import SqlSelect.Proofs.Pruning
import SqlSelect.Proofs.LiteralDecoding
import SqlSelect.Proofs.ConditionTags
import SqlSelect.Proofs.TextMatching
import SqlSelect.Proofs.AliasOffsets
import SqlSelect.Proofs.Edits
import SqlSelect.Proofs.NestingDepth
import SqlSelect.Proofs.Recursion
import SqlSelect.Proofs.SingularForms
import SqlSelect.Proofs.NestedActions
import SqlSelect.Proofs.Unrolling
import SqlSelect.Proofs.Contracts
import SqlSelect.Proofs.EventLog
import SqlSelect.Proofs.UnusedHandlers
