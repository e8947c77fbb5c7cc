import ClassSpacing.Command.Arguments
import ClassSpacing.Command.Check
import ClassSpacing.Command.Event
import ClassSpacing.Command.Fix
import ClassSpacing.Command.Help
import ClassSpacing.Command.Markup
import ClassSpacing.Command.Message
import ClassSpacing.Command.Parameter
import ClassSpacing.Command.Prepare
import ClassSpacing.Command.Refusal
import ClassSpacing.Command.Run
import ClassSpacing.Config.Basic
import ClassSpacing.Config.Load
import ClassSpacing.Config.Setting
import ClassSpacing.Diagnostic
import ClassSpacing.Dialect
import ClassSpacing.Diff.Lines
import ClassSpacing.Diff.Script
import ClassSpacing.Diff.Settle
import ClassSpacing.Digest
import ClassSpacing.Edit
import ClassSpacing.Fixer
import ClassSpacing.Grammar.Automaton
import ClassSpacing.Grammar.Branch
import ClassSpacing.Grammar.Language
import ClassSpacing.Grammar.Lexeme
import ClassSpacing.Grammar.Reading
import ClassSpacing.Grammar.Recovery
import ClassSpacing.Grammar.Reduction
import ClassSpacing.Grammar.Rule
import ClassSpacing.Grammar.Scanner
import ClassSpacing.Grammar.Script
import ClassSpacing.Grammar.Script.Declarations
import ClassSpacing.Grammar.Script.Elements
import ClassSpacing.Grammar.Script.Literals
import ClassSpacing.Grammar.Script.Members
import ClassSpacing.Grammar.Script.Operations
import ClassSpacing.Grammar.Script.Statements
import ClassSpacing.Grammar.Script.Types
import ClassSpacing.Grammar.Script.Values
import ClassSpacing.Grammar.Stack
import ClassSpacing.Grammar.Token
import ClassSpacing.Grammar.TokenSet
import ClassSpacing.Grammar.Version
import ClassSpacing.Json.Fault
import ClassSpacing.Json.Number
import ClassSpacing.Json.Quoted
import ClassSpacing.Json.Reader
import ClassSpacing.Json.Writer
import ClassSpacing.Main
import ClassSpacing.Number.Binary64
import ClassSpacing.Number.Shortest
import ClassSpacing.Path
import ClassSpacing.RawText
import ClassSpacing.Report.Paint
import ClassSpacing.Report.Render
import ClassSpacing.Report.Summary
import ClassSpacing.Rule
import ClassSpacing.Spacing
import ClassSpacing.Strict
import ClassSpacing.Text.Basic
import ClassSpacing.Text.Blank
import ClassSpacing.Text.Decimal
import ClassSpacing.Text.LineTable
import ClassSpacing.Text.OpeningBrace
import ClassSpacing.Text.Quoted
import ClassSpacing.Text.Similarity
import ClassSpacing.Text.Utf8
import ClassSpacing.Text.Word
import ClassSpacing.Toml.Document
import ClassSpacing.Toml.Quoted
import ClassSpacing.Toml.Reader
import ClassSpacing.Toml.Scalar
import ClassSpacing.Tree.Basic
import ClassSpacing.Tree.Faults
import ClassSpacing.Tree.Members
import ClassSpacing.Tree.Visitor
import ClassSpacing.Value
import ClassSpacing.Workspace.Basic
import ClassSpacing.Workspace.Collect
import ClassSpacing.Workspace.Fault
import ClassSpacing.Workspace.Files
import ClassSpacing.Proofs.Text.LineTable
import ClassSpacing.Proofs.Rule.Measure
import ClassSpacing.Proofs.Rule.Examine
import ClassSpacing.Proofs.Fix.Select
import ClassSpacing.Proofs.Fix.Pass
import ClassSpacing.Proofs.Fix.Run
import ClassSpacing.Proofs.Fix.BlankLines
import ClassSpacing.Proofs.Fix.Progress
import ClassSpacing.Proofs.Text.Utf8
import ClassSpacing.Proofs.Text.RawText
import ClassSpacing.Proofs.Workspace.WriteFixed
import ClassSpacing.Proofs.Tree.Shift
import ClassSpacing.Proofs.Tree.Sites
import ClassSpacing.Proofs.Tree.Ordered
import ClassSpacing.Proofs.Tree.WellFormed
import ClassSpacing.Proofs.Rule.Anchor
import ClassSpacing.Proofs.Rule.Standing
import ClassSpacing.Proofs.Rule.Respace
import ClassSpacing.Proofs.Rule.Mend
import ClassSpacing.Proofs.Fix.Nesting
import ClassSpacing.Proofs.Fix.Levels
import ClassSpacing.Proofs.Fix.Converge
import ClassSpacing.Proofs.Config.OtherRules
import ClassSpacing.Proofs.Config.Defaults
import ClassSpacing.Proofs.Fix.Removal
import ClassSpacing.Proofs.Text.Crlf
import ClassSpacing.Proofs.Rule.LineEndings
import ClassSpacing.Proofs.Fix.LineEndings
import ClassSpacing.Proofs.Workspace.Layout
import ClassSpacing.Proofs.Command.Recheck
import ClassSpacing.Proofs.Tree.Faults
import ClassSpacing.Proofs.Fix.Faults
import ClassSpacing.Proofs.Command.Trial
import ClassSpacing.Proofs.Command.Spellings
import ClassSpacing.Proofs.Config.Written
import ClassSpacing.Proofs.Config.Formats
import ClassSpacing.Proofs.Fix.Substitution
import ClassSpacing.Proofs.Fix.Outermost
import ClassSpacing.Proofs.Json.Pretty
import ClassSpacing.Proofs.Report.Data
import ClassSpacing.Proofs.Rule.Order
import ClassSpacing.Proofs.Fix.Correction
import ClassSpacing.Proofs.Rule.Strict
import ClassSpacing.Proofs.Edit.Reversal
import ClassSpacing.Proofs.Edit.Repetition
import ClassSpacing.Proofs.Rule.Comments
import ClassSpacing.Proofs.Rule.Requirements
import ClassSpacing.Proofs.Edit.Agreement
import ClassSpacing.Proofs.Workspace.Below
import ClassSpacing.Proofs.Workspace.Reach
import ClassSpacing.Proofs.Tree.Cursor
import ClassSpacing.Proofs.Tree.Addresses
import ClassSpacing.Proofs.Tree.Members
import ClassSpacing.Proofs.Tree.Visitor
import ClassSpacing.Proofs.Rule.Questions
import ClassSpacing.Proofs.Text.OpeningBrace
import ClassSpacing.Proofs.Text.Positions
import ClassSpacing.Proofs.Config.NumberOfLines
