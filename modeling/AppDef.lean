import AppDef.Console.Answer
import AppDef.Console.Basic
import AppDef.Console.Command
import AppDef.Console.Transcript
import AppDef.Console.Walk
import AppDef.Contact
import AppDef.Dict
import AppDef.Document.Basic
import AppDef.Document.Check
import AppDef.Document.Field
import AppDef.Document.Section
import AppDef.Draft.Basic
import AppDef.Draft.Fence
import AppDef.Draft.Prompt
import AppDef.Draft.Schema
import AppDef.Engine.Basic
import AppDef.Engine.Config
import AppDef.Engine.Sink
import AppDef.Engine.Store
import AppDef.Engine.Submission
import AppDef.Engine.Wire
import AppDef.Environment
import AppDef.Evaluation
import AppDef.Expr.Basic
import AppDef.Expr.Eval
import AppDef.Expr.Lexer
import AppDef.Expr.Parser
import AppDef.Expr.Token
import AppDef.Json.Basic
import AppDef.Json.Display
import AppDef.Json.Failure
import AppDef.Json.Parse
import AppDef.Json.Print
import AppDef.Json.Record
import AppDef.Json.Scan
import AppDef.Json.Shape
import AppDef.Json.Skip
import AppDef.Json.Slot
import AppDef.Lint
import AppDef.Main
import AppDef.Number.Binary
import AppDef.Number.Notation
import AppDef.Number.Reading
import AppDef.Number.Shortest
import AppDef.Pattern.Basic
import AppDef.Pattern.CharSet
import AppDef.Pattern.Match
import AppDef.Pattern.Parser
import AppDef.Pattern.Property
import AppDef.Pattern.Report
import AppDef.Pattern.Syntax
import AppDef.Proofs.Comparison
import AppDef.Proofs.Console.Rounds
import AppDef.Proofs.Console.Walk
import AppDef.Proofs.Dict
import AppDef.Proofs.Document.Acceptance
import AppDef.Proofs.Document.Field
import AppDef.Proofs.Document.RoundTrip
import AppDef.Proofs.Document.Section
import AppDef.Proofs.Document.Skeleton
import AppDef.Proofs.Document.Verdict
import AppDef.Proofs.Engine.Catalog
import AppDef.Proofs.Engine.Endpoint
import AppDef.Proofs.Engine.Isolation
import AppDef.Proofs.Engine.Ledger
import AppDef.Proofs.Engine.Step
import AppDef.Proofs.Evaluation
import AppDef.Proofs.Expr.Completeness
import AppDef.Proofs.Expr.Evaluation
import AppDef.Proofs.Expr.Footprint
import AppDef.Proofs.Expr.Grammar
import AppDef.Proofs.Expr.Guard
import AppDef.Proofs.Expr.Language
import AppDef.Proofs.Expr.Missing
import AppDef.Proofs.Expr.Naming
import AppDef.Proofs.Expr.Refusal
import AppDef.Proofs.Expr.Soundness
import AppDef.Proofs.Expr.Tree
import AppDef.Proofs.Formula
import AppDef.Proofs.Gate
import AppDef.Proofs.Json.Decoding
import AppDef.Proofs.Json.WellFormed
import AppDef.Proofs.Lint
import AppDef.Proofs.Number
import AppDef.Proofs.Outcome
import AppDef.Proofs.Pattern.Agreement
import AppDef.Proofs.Pattern.Classes
import AppDef.Proofs.Pattern.Embedding
import AppDef.Proofs.Pattern.Groups
import AppDef.Proofs.Pattern.Meaning
import AppDef.Proofs.Pattern.Primitives
import AppDef.Proofs.Pattern.Reading
import AppDef.Proofs.Pattern.Whole
import AppDef.Proofs.Provenance
import AppDef.Proofs.Rendering
import AppDef.Proofs.Required
import AppDef.Proofs.Submission
import AppDef.Proofs.Template.Footprint
import AppDef.Proofs.Template.Placeholder
import AppDef.Proofs.Template.Tag
import AppDef.Proofs.Template.Verbatim
import AppDef.Proofs.Validation
import AppDef.Proofs.Wizard
import AppDef.Rendering
import AppDef.Scalar
import AppDef.Template.Basic
import AppDef.Template.Format
import AppDef.Template.Helper
import AppDef.Template.Interpolate
import AppDef.Template.Layout
import AppDef.Template.Placeholder
import AppDef.Template.Render
import AppDef.Template.Scan
import AppDef.Template.Scope
import AppDef.Template.Tag
import AppDef.Text.Blank
import AppDef.Text.Letters
import AppDef.Text.Quoted
import AppDef.Unicode.Age
import AppDef.Unicode.Attribute
import AppDef.Unicode.Category
import AppDef.Unicode.Folding
import AppDef.Unicode.Range
import AppDef.Unicode.Script
import AppDef.Unicode.Segment
import AppDef.Validation
import AppDef.Wizard
import AppDef.Proofs.Number.Encoding
import AppDef.Proofs.Number.Interval
import AppDef.Proofs.Number.Shortest
import AppDef.Proofs.Number.Notation
import AppDef.Proofs.Template.Numeral
import AppDef.Proofs.Choice
import AppDef.Proofs.Contact
import AppDef.Proofs.Draft.Fence
import AppDef.Proofs.Draft.Aside
import AppDef.Proofs.FieldMap
import AppDef.Proofs.Template.Overrun
import AppDef.Proofs.Console.Progress
import AppDef.Proofs.Console.Answer
import AppDef.Proofs.Console.Capture
import AppDef.Proofs.Console.Finish
import AppDef.Proofs.Engine.Response
import AppDef.Proofs.Document.Leniency
import AppDef.Proofs.Document.Culprit
import AppDef.Proofs.Visibility
import AppDef.Proofs.Pattern.Matching
import AppDef.Proofs.Address
import AppDef.Proofs.Expr.Application
import AppDef.Proofs.Expr.Height
import AppDef.Proofs.Expr.Recursion
import AppDef.Proofs.Number.Decimal
import AppDef.Proofs.Number.Fixed
import AppDef.Proofs.Template.Currency
import AppDef.Proofs.Expr.Spelling
import AppDef.Proofs.Expr.Layout
