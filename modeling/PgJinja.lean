import PgJinja.Cli.Arguments
import PgJinja.Cli.Batch
import PgJinja.Cli.Crash
import PgJinja.Cli.Log
import PgJinja.Cli.Run
import PgJinja.Cli.Snapshot
import PgJinja.Compilation
import PgJinja.Config.Settings
import PgJinja.Config.Toml.Document
import PgJinja.Config.Toml.Lexeme
import PgJinja.Config.Toml.Value
import PgJinja.Diagnostic.Basic
import PgJinja.Diagnostic.Code
import PgJinja.Diagnostic.Report
import PgJinja.Failure
import PgJinja.Files.Discovery
import PgJinja.Files.Disk
import PgJinja.Files.Glob
import PgJinja.Files.Path
import PgJinja.Files.PathGlob
import PgJinja.Jinja.Expression
import PgJinja.Jinja.Listing
import PgJinja.Jinja.Output
import PgJinja.Jinja.Step
import PgJinja.Jinja.Template
import PgJinja.Json.Display
import PgJinja.Json.Reader
import PgJinja.Json.Value
import PgJinja.Json.Writer
import PgJinja.Line
import PgJinja.Main
import PgJinja.Number.Binary64
import PgJinja.Number.Layout
import PgJinja.Number.Shortest
import PgJinja.Raw.Field
import PgJinja.Raw.Procedure
import PgJinja.Raw.Statement
import PgJinja.Source
import PgJinja.Statement
import PgJinja.Terminal.Argument
import PgJinja.Terminal.Column
import PgJinja.Terminal.Expression.Call
import PgJinja.Terminal.Expression.Complaint
import PgJinja.Terminal.Expression.Field
import PgJinja.Terminal.Expression.Grammar
import PgJinja.Terminal.Expression.Lambda
import PgJinja.Terminal.Expression.Read
import PgJinja.Terminal.Expression.Reader
import PgJinja.Terminal.Expression.Token
import PgJinja.Terminal.Expression.Tree
import PgJinja.Terminal.Expression.Value
import PgJinja.Terminal.Markup
import PgJinja.Terminal.Printed
import PgJinja.Terminal.Style
import PgJinja.Terminal.Symbol
import PgJinja.Terminal.SymbolTable
import PgJinja.Text.Basic
import PgJinja.Text.Cased
import PgJinja.Text.Digit
import PgJinja.Text.Identifier
import PgJinja.Text.Lower
import PgJinja.Text.Numeral
import PgJinja.Text.Pattern
import PgJinja.Text.Printable
import PgJinja.Text.Quoted
import PgJinja.Text.Utf8
import PgJinja.Text.Word
import PgJinja.Proofs.Run
import PgJinja.Proofs.Lines
import PgJinja.Proofs.Meaning
import PgJinja.Proofs.Rendering
import PgJinja.Proofs.Nesting
import PgJinja.Proofs.Reading
import PgJinja.Proofs.Numbering
import PgJinja.Proofs.Normal
import PgJinja.Proofs.Parallel
import PgJinja.Proofs.Fields
import PgJinja.Proofs.Representation
import PgJinja.Proofs.Refusals
import PgJinja.Proofs.Documents
import PgJinja.Proofs.Storage
import PgJinja.Proofs.Calls
import PgJinja.Proofs.Batches
import PgJinja.Proofs.Accounting
import PgJinja.Proofs.Overwriting
import PgJinja.Proofs.Assignments
import PgJinja.Proofs.Literals
import PgJinja.Proofs.ValueLists
import PgJinja.Proofs.Positions
import PgJinja.Proofs.Warnings
import PgJinja.Proofs.Offences
import PgJinja.Proofs.Scans
import PgJinja.Proofs.Visits
import PgJinja.Proofs.SourceLines
import PgJinja.Proofs.Carets
import PgJinja.Proofs.Underlining
import PgJinja.Proofs.Discovery
import PgJinja.Proofs.Reports
