import SqlBind.Binding
import SqlBind.Calendar
import SqlBind.Cli.Arguments
import SqlBind.Cli.ConfigFile
import SqlBind.Cli.ConfigTemplate
import SqlBind.Cli.EnvReference
import SqlBind.Cli.Failure
import SqlBind.Cli.FileTree
import SqlBind.Cli.Help
import SqlBind.Cli.Host
import SqlBind.Cli.Listing
import SqlBind.Cli.Loading
import SqlBind.Cli.Path
import SqlBind.Cli.Program
import SqlBind.Cli.RecordFile
import SqlBind.Cli.Rehearsal
import SqlBind.Compiler
import SqlBind.Compiler.Cache
import SqlBind.Config
import SqlBind.Config.Document
import SqlBind.Driver
import SqlBind.Driver.Scripted
import SqlBind.Error
import SqlBind.Execution.Adaptive
import SqlBind.Execution.Atomic
import SqlBind.Execution.Channel
import SqlBind.Execution.Ledger
import SqlBind.Execution.Stretch
import SqlBind.FieldMap
import SqlBind.Ident
import SqlBind.Json.Basic
import SqlBind.Json.Reader
import SqlBind.Json.Token
import SqlBind.Log.Event
import SqlBind.Log.Excerpt
import SqlBind.Main
import SqlBind.Number.Binary
import SqlBind.Number.Notation
import SqlBind.Number.Shortest
import SqlBind.ParamStyle
import SqlBind.Postgres.Client
import SqlBind.Postgres.Encoding
import SqlBind.Postgres.Scripted
import SqlBind.Postgres.Server
import SqlBind.Proofs.Batch.Accounting
import SqlBind.Proofs.Batch.Agreement
import SqlBind.Proofs.Batch.Course
import SqlBind.Proofs.Batch.Coverage
import SqlBind.Proofs.Batch.Discipline
import SqlBind.Proofs.Batch.Effort
import SqlBind.Proofs.Batch.Interchange
import SqlBind.Proofs.Batch.OneByOne
import SqlBind.Proofs.Batch.Slices
import SqlBind.Proofs.Batch.Survival
import SqlBind.Proofs.Binding.Aligned
import SqlBind.Proofs.Binding.Keyed
import SqlBind.Proofs.Binding.Layout
import SqlBind.Proofs.Cli.CommandLine
import SqlBind.Proofs.Cli.Records
import SqlBind.Proofs.Cli.References
import SqlBind.Proofs.Compiler.Faithful
import SqlBind.Proofs.Compiler.Recency
import SqlBind.Proofs.Compiler.Sharing
import SqlBind.Proofs.Ident.Grammar
import SqlBind.Proofs.Ident.Reading
import SqlBind.Proofs.Log.Shortening
import SqlBind.Proofs.Postgres.Bracketing
import SqlBind.Proofs.Postgres.Durability
import SqlBind.Proofs.Postgres.Narrowing
import SqlBind.Proofs.Session.Books
import SqlBind.Proofs.Session.Calls
import SqlBind.Proofs.Session.Reach
import SqlBind.Proofs.Session.SingleWrites
import SqlBind.Proofs.Session.StoreIndependence
import SqlBind.Proofs.Session.Writes
import SqlBind.Proofs.Table.Columns
import SqlBind.Proofs.Table.Merge
import SqlBind.Proofs.Table.Statements
import SqlBind.Proofs.Table.Writes
import SqlBind.Proofs.Template.Grammar
import SqlBind.Proofs.Template.Literals
import SqlBind.Proofs.Template.Recompile
import SqlBind.Proofs.Template.Spans
import SqlBind.Proofs.Text.Quoting
import SqlBind.Record
import SqlBind.Session
import SqlBind.Sql.Literal
import SqlBind.Sql.Template
import SqlBind.Statement
import SqlBind.Table
import SqlBind.Text.Alphanumeric
import SqlBind.Text.Blank
import SqlBind.Text.CodePoints
import SqlBind.Text.Hex
import SqlBind.Text.Quoted
import SqlBind.Text.Unprintable
import SqlBind.Toml.Moment
import SqlBind.Toml.Reader
import SqlBind.Toml.Text
import SqlBind.Toml.Tree
import SqlBind.Toml.Word
import SqlBind.Uuid
import SqlBind.Value
