import BoardLint.Command.Arguments
import BoardLint.Command.Run
import BoardLint.Dashboard.Basic
import BoardLint.Dashboard.Document
import BoardLint.Diff.Edit
import BoardLint.Diff.Unified
import BoardLint.File.Path
import BoardLint.File.Tree
import BoardLint.Finding.Basic
import BoardLint.Finding.Collection
import BoardLint.Finding.Diagnostic
import BoardLint.Finding.Severity
import BoardLint.Glob.Exclusion
import BoardLint.Glob.PathPattern
import BoardLint.Json.Basic
import BoardLint.Json.Number
import BoardLint.Json.Outline
import BoardLint.Json.Printer
import BoardLint.Json.Reader
import BoardLint.Json.Token
import BoardLint.KeyMap
import BoardLint.Lint.Discovery
import BoardLint.Lint.Repair
import BoardLint.Lint.Run
import BoardLint.Main
import BoardLint.Number.Binary64
import BoardLint.Number.Decimal
import BoardLint.Number.Literal
import BoardLint.Override.Basic
import BoardLint.Override.Cascade
import BoardLint.Query.Duration
import BoardLint.Query.Expr
import BoardLint.Query.Function
import BoardLint.Query.Matcher
import BoardLint.Query.Parser
import BoardLint.Query.Printer
import BoardLint.Query.Token
import BoardLint.Query.Typing
import BoardLint.Query.Walk
import BoardLint.Regex.Automaton
import BoardLint.Regex.Class
import BoardLint.Regex.Escape
import BoardLint.Regex.Parser
import BoardLint.Regex.Pattern
import BoardLint.Regex.Property
import BoardLint.Regex.Utf8
import BoardLint.Report.Basic
import BoardLint.Report.Document
import BoardLint.Report.Style
import BoardLint.Rule.Basic
import BoardLint.Rule.Catalogue
import BoardLint.Rule.Datasource
import BoardLint.Rule.Presentation
import BoardLint.Rule.QueryShape
import BoardLint.Rule.RequiredMatcher
import BoardLint.Rule.RequiredVariable
import BoardLint.Rule.TemplateQuery
import BoardLint.Settings.Basic
import BoardLint.Settings.Document
import BoardLint.Settings.Load
import BoardLint.Settings.Source
import BoardLint.Shape
import BoardLint.Text.Basic
import BoardLint.Text.Quoted
import BoardLint.Text.Word
import BoardLint.Unicode.Age
import BoardLint.Unicode.CaseFold
import BoardLint.Unicode.Category
import BoardLint.Unicode.CodeSet
import BoardLint.Unicode.Letter
import BoardLint.Unicode.Script
import BoardLint.Unicode.Segmentation
import BoardLint.Unicode.Trait
import BoardLint.Variable.Expansion
import BoardLint.Variable.Kind
import BoardLint.Variable.Placeholder
import BoardLint.Variable.Reference
import BoardLint.Yaml.Cursor
import BoardLint.Yaml.Expansion
import BoardLint.Yaml.Node
import BoardLint.Yaml.Scalar
import BoardLint.Yaml.Token
import BoardLint.Yaml.Value
import BoardLint.Proofs.KeyMap
import BoardLint.Proofs.Variable.Stability
import BoardLint.Proofs.Variable.Form
import BoardLint.Proofs.Variable.Pieces
import BoardLint.Proofs.Variable.RoundTrip
import BoardLint.Proofs.Variable.Supply
import BoardLint.Proofs.Finding.Settled
import BoardLint.Proofs.Query.RequiredMatchers
import BoardLint.Proofs.Dashboard.Position
import BoardLint.Proofs.Dashboard.Shape
import BoardLint.Proofs.Query.Visits
import BoardLint.Proofs.Finding.Repair
import BoardLint.Proofs.Finding.Sweep
import BoardLint.Proofs.Lint.AutoFix
import BoardLint.Proofs.Dashboard.Frame
import BoardLint.Proofs.Lint.Untouched
import BoardLint.Proofs.Override.Coverage
import BoardLint.Proofs.File.Path
import BoardLint.Proofs.Lint.Independence
import BoardLint.Proofs.Rule.MatcherRepair
import BoardLint.Proofs.Lint.Fixed
import BoardLint.Proofs.Json.Members
import BoardLint.Proofs.Json.Number
import BoardLint.Proofs.Json.Reading
import BoardLint.Proofs.Json.Lexing
import BoardLint.Proofs.Json.RoundTrip
import BoardLint.Proofs.Dashboard.Keeps
import BoardLint.Proofs.Dashboard.Fields
import BoardLint.Proofs.Dashboard.Records
import BoardLint.Proofs.Dashboard.Document
import BoardLint.Proofs.Diff.Script
import BoardLint.Proofs.Json.Outline
import BoardLint.Proofs.Override.Growth
import BoardLint.Proofs.Settings.Document
import BoardLint.Proofs.Dashboard.Readable
import BoardLint.Proofs.File.Tree
import BoardLint.Proofs.Lint.Persistence
import BoardLint.Proofs.Diff.Hunks
import BoardLint.Proofs.Diff.Walk
import BoardLint.Proofs.Variable.Legality
import BoardLint.Proofs.Variable.Literals
import BoardLint.Proofs.Variable.Units
import BoardLint.Proofs.Query.Places
import BoardLint.Proofs.Rule.QueryShape
import BoardLint.Proofs.Variable.Naming
import BoardLint.Proofs.Rule.TemplateUse
import BoardLint.Proofs.Rule.MatcherFrame
import BoardLint.Proofs.Variable.Aliases
import BoardLint.Proofs.Dashboard.Listing
import BoardLint.Proofs.Settings.Merge
import BoardLint.Proofs.Report.Arrangement
import BoardLint.Proofs.Rule.TemplatePattern
import BoardLint.Proofs.Rule.TemplateQuery
import BoardLint.Proofs.Report.Sections
import BoardLint.Proofs.Query.Duration
import BoardLint.Proofs.Variable.Recognition
import BoardLint.Proofs.Variable.Capacity
