import ObjectQuery.Clause.Filter
import ObjectQuery.Clause.Group
import ObjectQuery.Clause.Join
import ObjectQuery.Clause.LocaleMatch
import ObjectQuery.Clause.Order
import ObjectQuery.Clause.Select
import ObjectQuery.CommandLine.Help
import ObjectQuery.CommandLine.Outcome
import ObjectQuery.CommandLine.Request
import ObjectQuery.Compiler
import ObjectQuery.Compiler.Trace
import ObjectQuery.Convention
import ObjectQuery.Decimal.Notation
import ObjectQuery.Decimal.Shortest
import ObjectQuery.Diagnostic
import ObjectQuery.Document.Compiled
import ObjectQuery.Document.Decode
import ObjectQuery.Document.Error
import ObjectQuery.Document.Query
import ObjectQuery.Document.Restriction
import ObjectQuery.Document.Value
import ObjectQuery.Error
import ObjectQuery.Execution.Dialogue
import ObjectQuery.Execution.GroupCount
import ObjectQuery.Execution.Result
import ObjectQuery.Execution.Service
import ObjectQuery.FileTree
import ObjectQuery.Json.Basic
import ObjectQuery.Json.Number
import ObjectQuery.Json.Outline
import ObjectQuery.Json.Printer
import ObjectQuery.Json.Reader
import ObjectQuery.Locale
import ObjectQuery.Main
import ObjectQuery.Parameter
import ObjectQuery.Path
import ObjectQuery.Query.Aggregate
import ObjectQuery.Query.Basic
import ObjectQuery.Restriction.Basic
import ObjectQuery.Restriction.Gap
import ObjectQuery.Restriction.Operator
import ObjectQuery.Settings.Basic
import ObjectQuery.Settings.Document
import ObjectQuery.Settings.Load
import ObjectQuery.Statement.Basic
import ObjectQuery.Statement.Expr
import ObjectQuery.Statement.Token
import ObjectQuery.Text.Blank
import ObjectQuery.Text.Case
import ObjectQuery.Text.CaseTable
import ObjectQuery.Text.Split
import ObjectQuery.Toml.Basic
import ObjectQuery.Toml.Reader
import ObjectQuery.Toml.Scalar
import ObjectQuery.Value
import ObjectQuery.Proofs.Alias.FirstUse
import ObjectQuery.Proofs.Alias.Joins
import ObjectQuery.Proofs.Alias.Navigation
import ObjectQuery.Proofs.Alias.Scope
import ObjectQuery.Proofs.Compiler.Count
import ObjectQuery.Proofs.Compiler.Fault
import ObjectQuery.Proofs.Compiler.Normal
import ObjectQuery.Proofs.Compiler.Parts
import ObjectQuery.Proofs.Decimal.Notation
import ObjectQuery.Proofs.Document.Reads
import ObjectQuery.Proofs.Document.Restriction
import ObjectQuery.Proofs.Document.RoundTrip
import ObjectQuery.Proofs.Execution.Protocol
import ObjectQuery.Proofs.Execution.Refusal
import ObjectQuery.Proofs.Filter.Fault
import ObjectQuery.Proofs.Filter.Normal
import ObjectQuery.Proofs.Filter.Run
import ObjectQuery.Proofs.Grammar.Compiled
import ObjectQuery.Proofs.Grammar.Condition
import ObjectQuery.Proofs.Grammar.Reader
import ObjectQuery.Proofs.Grammar.Statement
import ObjectQuery.Proofs.Group.Admission
import ObjectQuery.Proofs.Group.Counting
import ObjectQuery.Proofs.Group.Keys
import ObjectQuery.Proofs.Json.Number
import ObjectQuery.Proofs.Json.Numbers
import ObjectQuery.Proofs.Json.Text
import ObjectQuery.Proofs.Localized.BestMatch
import ObjectQuery.Proofs.Localized.Conditions
import ObjectQuery.Proofs.Localized.Injection
import ObjectQuery.Proofs.Localized.Rank
import ObjectQuery.Proofs.Localized.Rows
import ObjectQuery.Proofs.Meaning.Condition
import ObjectQuery.Proofs.Meaning.Filter
import ObjectQuery.Proofs.Meaning.Item
import ObjectQuery.Proofs.Meaning.Statement
import ObjectQuery.Proofs.Order.Ordinals
import ObjectQuery.Proofs.Parameter.Fresh
import ObjectQuery.Proofs.Parameter.Recovery
import ObjectQuery.Proofs.Parameter.Slots
import ObjectQuery.Proofs.Path.Star
import ObjectQuery.Proofs.Settings.Identifier
import ObjectQuery.Proofs.Shape.Filter
import ObjectQuery.Proofs.Shape.Statement
import ObjectQuery.Proofs.Statement.Clean
import ObjectQuery.Proofs.Statement.Gather
import ObjectQuery.Proofs.Statement.Literal
import ObjectQuery.Proofs.Statement.Parted
import ObjectQuery.Proofs.Statement.Placeholders
import ObjectQuery.Proofs.Statement.Text
import ObjectQuery.Proofs.Group.Kept
import ObjectQuery.Proofs.Meaning.Like
import ObjectQuery.Proofs.Execution.GroupCounts
import ObjectQuery.Proofs.Restriction.Gap
import ObjectQuery.Proofs.Restriction.Location
import ObjectQuery.Proofs.Compiler.Diagnostics
import ObjectQuery.Proofs.Order.ByName
import ObjectQuery.Proofs.Parameter.Sequence
import ObjectQuery.Proofs.Path.Decomposition
import ObjectQuery.Proofs.Text.Case
import ObjectQuery.Proofs.Locale.Tag
import ObjectQuery.Proofs.Document.Readable
import ObjectQuery.Proofs.Document.Reread
