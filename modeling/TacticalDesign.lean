import TacticalDesign.AliasArgument
import TacticalDesign.AntiPattern
import TacticalDesign.Baseline
import TacticalDesign.BaselineIndex
import TacticalDesign.BaselineProblem
import TacticalDesign.BaselineReader
import TacticalDesign.Build
import TacticalDesign.ChangeRecord
import TacticalDesign.Classification
import TacticalDesign.Command.Arguments
import TacticalDesign.Command.Display
import TacticalDesign.Command.Outcome
import TacticalDesign.Command.Run
import TacticalDesign.Config
import TacticalDesign.Declaration
import TacticalDesign.DeclarationReader
import TacticalDesign.Digest
import TacticalDesign.Document
import TacticalDesign.Failure
import TacticalDesign.FileError
import TacticalDesign.FileTree
import TacticalDesign.Finding
import TacticalDesign.Graph
import TacticalDesign.Ignore.Matcher
import TacticalDesign.Ignore.Matching
import TacticalDesign.Ignore.Pattern
import TacticalDesign.Json.Parser
import TacticalDesign.Json.Printer
import TacticalDesign.Json.Written
import TacticalDesign.Main
import TacticalDesign.NameWords
import TacticalDesign.Number.Compare
import TacticalDesign.Number.Reading
import TacticalDesign.Number.Value
import TacticalDesign.Ordering
import TacticalDesign.Path
import TacticalDesign.Project
import TacticalDesign.Proofs.AntiPattern.Detection
import TacticalDesign.Proofs.AntiPattern.Limits
import TacticalDesign.Proofs.AntiPattern.Obsession
import TacticalDesign.Proofs.AntiPattern.Ownership
import TacticalDesign.Proofs.AntiPattern.Recurring
import TacticalDesign.Proofs.Baseline.Acceptance
import TacticalDesign.Proofs.Baseline.Index
import TacticalDesign.Proofs.Baseline.Records
import TacticalDesign.Proofs.Baseline.RoundTrip
import TacticalDesign.Proofs.Baseline.Words
import TacticalDesign.Proofs.Classification.Crew
import TacticalDesign.Proofs.Classification.Decision
import TacticalDesign.Proofs.Classification.Evidence
import TacticalDesign.Proofs.Classification.ExactVote
import TacticalDesign.Proofs.Classification.Identity
import TacticalDesign.Proofs.Classification.Locality
import TacticalDesign.Proofs.Classification.MemberOrder
import TacticalDesign.Proofs.Classification.Order
import TacticalDesign.Proofs.Classification.Poll
import TacticalDesign.Proofs.Classification.Raise
import TacticalDesign.Proofs.Command.Endings
import TacticalDesign.Proofs.Command.Failing
import TacticalDesign.Proofs.Command.Saving
import TacticalDesign.Proofs.Command.Session
import TacticalDesign.Proofs.Command.Stages
import TacticalDesign.Proofs.Config.Limits
import TacticalDesign.Proofs.Declaration.Reading
import TacticalDesign.Proofs.Diff.Edges
import TacticalDesign.Proofs.Diff.Exactness
import TacticalDesign.Proofs.Diff.Matching
import TacticalDesign.Proofs.Diff.MemberOrder
import TacticalDesign.Proofs.Diff.Members
import TacticalDesign.Proofs.Diff.Mirror
import TacticalDesign.Proofs.Diff.Records
import TacticalDesign.Proofs.Diff.Remainder
import TacticalDesign.Proofs.Diff.RenameHints
import TacticalDesign.Proofs.Diff.Renaming
import TacticalDesign.Proofs.Diff.SameGraph
import TacticalDesign.Proofs.Diff.Threshold
import TacticalDesign.Proofs.Except
import TacticalDesign.Proofs.Files.Places
import TacticalDesign.Proofs.Files.Stores
import TacticalDesign.Proofs.Files.Written
import TacticalDesign.Proofs.Graph.Assembly
import TacticalDesign.Proofs.Graph.Derivation
import TacticalDesign.Proofs.Graph.Growth
import TacticalDesign.Proofs.Graph.Indexing
import TacticalDesign.Proofs.Graph.Lookup
import TacticalDesign.Proofs.Graph.Proximity
import TacticalDesign.Proofs.Graph.Shrinking
import TacticalDesign.Proofs.Ignore.Deciding
import TacticalDesign.Proofs.Ignore.Directories
import TacticalDesign.Proofs.Ignore.Gitignore
import TacticalDesign.Proofs.Ignore.Layers
import TacticalDesign.Proofs.Ignore.Lines
import TacticalDesign.Proofs.Ignore.Matching
import TacticalDesign.Proofs.Ignore.Names
import TacticalDesign.Proofs.Ignore.Scope
import TacticalDesign.Proofs.Ignore.Shape
import TacticalDesign.Proofs.Json.Numbers
import TacticalDesign.Proofs.Json.Reading
import TacticalDesign.Proofs.Json.RoundTrip
import TacticalDesign.Proofs.Json.Texts
import TacticalDesign.Proofs.Names.References
import TacticalDesign.Proofs.Names.Spelling
import TacticalDesign.Proofs.Names.Words
import TacticalDesign.Proofs.Number.Conversion
import TacticalDesign.Proofs.Number.Exact
import TacticalDesign.Proofs.Number.FloatOrder
import TacticalDesign.Proofs.Number.Numerals
import TacticalDesign.Proofs.Number.Packing
import TacticalDesign.Proofs.Number.Rounding
import TacticalDesign.Proofs.Number.Shortest
import TacticalDesign.Proofs.Number.Whole
import TacticalDesign.Proofs.Order
import TacticalDesign.Proofs.Pool.Accounting
import TacticalDesign.Proofs.Pool.Outcome
import TacticalDesign.Proofs.Pool.Progress
import TacticalDesign.Proofs.Pool.Reach
import TacticalDesign.Proofs.Pool.Steady
import TacticalDesign.Proofs.Pool.Steps
import TacticalDesign.Proofs.Registry.Fingerprint
import TacticalDesign.Proofs.Registry.Layers
import TacticalDesign.Proofs.Registry.Malformed
import TacticalDesign.Proofs.Registry.Overrides
import TacticalDesign.Proofs.Registry.Reweighing
import TacticalDesign.Proofs.Scan.Addition
import TacticalDesign.Proofs.Scan.Capture
import TacticalDesign.Proofs.Scan.Extraction
import TacticalDesign.Proofs.Scan.Failures
import TacticalDesign.Proofs.Scan.FixedPoint
import TacticalDesign.Proofs.Scan.Isolation
import TacticalDesign.Proofs.Scan.MemberOrder
import TacticalDesign.Proofs.Scan.Reordering
import TacticalDesign.Proofs.Scan.Report
import TacticalDesign.Proofs.Scan.Rescan
import TacticalDesign.Proofs.Scan.Summary
import TacticalDesign.Proofs.Source.Classes
import TacticalDesign.Proofs.Source.Fields
import TacticalDesign.Proofs.Source.Front
import TacticalDesign.Proofs.Source.Initializers
import TacticalDesign.Proofs.Source.Levels
import TacticalDesign.Proofs.Source.Marks
import TacticalDesign.Proofs.Source.Receivers
import TacticalDesign.Proofs.Source.Signatures
import TacticalDesign.Proofs.Store.History
import TacticalDesign.Proofs.Store.Latest
import TacticalDesign.Proofs.Store.Tables
import TacticalDesign.Proofs.Text.Encoding
import TacticalDesign.Proofs.Types.Notation
import TacticalDesign.Proofs.Types.Primitive
import TacticalDesign.Rationale
import TacticalDesign.Registry
import TacticalDesign.RelationshipDerivation
import TacticalDesign.RenameHint
import TacticalDesign.Report
import TacticalDesign.Role
import TacticalDesign.Rule
import TacticalDesign.RuleCatalog
import TacticalDesign.RunStore
import TacticalDesign.Scan
import TacticalDesign.Shape
import TacticalDesign.Source.Declarations
import TacticalDesign.Source.Expr
import TacticalDesign.Source.ExprText
import TacticalDesign.Source.Grammar
import TacticalDesign.Source.Interpolation
import TacticalDesign.Source.Lexer
import TacticalDesign.Source.Literal
import TacticalDesign.Source.Module
import TacticalDesign.Source.Parser
import TacticalDesign.Source.PatternGrammar
import TacticalDesign.Source.Statement
import TacticalDesign.Source.StatementGrammar
import TacticalDesign.Source.StringText
import TacticalDesign.Source.Token
import TacticalDesign.Source.Walk
import TacticalDesign.SourceUnit
import TacticalDesign.StoreDocument
import TacticalDesign.StructuralDiff
import TacticalDesign.Symbol
import TacticalDesign.SymbolDocument
import TacticalDesign.Text.CharClass
import TacticalDesign.Text.Lowercase
import TacticalDesign.Text.Normal
import TacticalDesign.Text.Quoted
import TacticalDesign.Text.Trim
import TacticalDesign.Text.Utf8
import TacticalDesign.TypeReference
import TacticalDesign.Verdict
import TacticalDesign.Vote
