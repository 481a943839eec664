import SqlBind.Cli.ConfigTemplate
import SqlBind.Cli.Help
import SqlBind.Cli.Host
import SqlBind.Cli.Listing
import SqlBind.Cli.Loading

/-!
Owns: what the program does for each command, on any host.
-/

set_option autoImplicit false

namespace SqlBind.Cli.Program

variable {m : Type → Type} [Monad m] {τ α ε : Type}

/-- An answer of the host, with the failure that a fault in it means. -/
def answered (failure : ε → Failure) (action : m (Except ε α)) : ExceptT Failure m α :=
  ExceptT.mk do return (← action).mapError failure

/-- The settings file of a request, with its final database. -/
def readConfig (host : Host m τ) (request : LoadRequest) : ExceptT Failure m ConfigFile := do
  let path := request.config
  let text ← answered (.configUnreadable path) (host.readText path)
  let values ← (ConfigFile.names text).mapM fun name => do
    return (name, ← host.lookupVariable name)
  answered (.configInvalid path) (pure (ConfigFile.parse request.database
    (fun name => (values.lookup name).join) text))

/-- The settings of a request. With a database on the command line there need be no file. -/
def config (host : Host m τ) (request : LoadRequest) : ExceptT Failure m ConfigFile := do
  match request.database with
  | none => readConfig host request
  | some url =>
    if ← host.pathExists request.config then readConfig host request
    else answered .standardConfig (pure (ConfigFile.standard url))

def records (host : Host m τ) (path : String) : ExceptT Failure m Batch := do
  let text ← answered (.recordsUnreadable path) (host.readText path)
  answered (.recordsInvalid path) (pure (RecordFile.read (.ofPath path) text))

def load (host : Host m τ) (request : LoadRequest) : ExceptT Failure m Report := do
  let file ← config host request
  let batch ← records host request.file
  let server ← answered .library (host.connect file.url)
  let (report, connection) := Loading.run (Postgres.driver host.server)
    (Loading.config file request) request.sql batch ⟨server, false⟩
  host.disconnect connection.server
  return report

def init (host : Host m τ) (path : String) : ExceptT Failure m Report := do
  if ← host.pathExists path then throw (.overwrite path)
  match Path.parent? path with
  | none => pure ()
  | some directory =>
    if directory ≠ "" then
      answered (.directory directory) (host.createDirectories directory)
  answered (.unwritable path) (host.writeText path ConfigFile.template)
  return { output := "wrote " ++ path ++ "\n" }

/-- Shows the compiled form of a statement. -/
def compile (style : ParamStyle) (sql : String) : Except Failure Report :=
  match SqlBind.compile sql style with
  | .ok statement => .ok { output := statement.listing }
  | .error e => .error (.library e)

def perform (host : Host m τ) : Command → ExceptT Failure m Report
  | .help topic => return { output := topic.text }
  | .compile style sql => ExceptT.mk (pure (compile style sql))
  | .load request => load host request
  | .init path => init host path

def run (host : Host m τ) (arguments : List String) : m Report := do
  let action : ExceptT Failure m Report := do
    perform host (← answered .usage (pure (Command.parse arguments)))
  match ← action.run with
  | .ok report => return report
  | .error failure => return { failure := some failure }

end SqlBind.Cli.Program
