import SqlBind.Cli.Program

/-!
Owns: the program on the system that it runs on. It cannot reach a database server from here, so
loading ends with an error once everything before it succeeded.
-/

set_option autoImplicit false

namespace SqlBind.Cli

/-- The fault that an error of the system means. -/
def faultOf : IO.Error → FileFault
  | .noFileOrDirectory .. => .missing
  | .permissionDenied .. => .denied
  | .alreadyExists .. => .exists
  | .inappropriateType _ 20 _ => .notDirectory
  | .inappropriateType _ 21 _ => .isDirectory
  | e => .other (toString e)

def attempted {α : Type} (action : IO α) : IO (Except FileFault α) := do
  match ← action.toBaseIO with
  | .ok value => return .ok value
  | .error e => return .error (faultOf e)

/-- The server of connections that are never made. -/
def unreachableServer : Postgres.Server Empty where
  bracket _ := nofun
  prepare _ := nofun
  execute _ _ := nofun

def systemHost : Host IO Empty where
  lookupVariable name := IO.getEnv name
  pathExists path := do
    if path = "" then return false
    ((← IO.currentDir) / path).pathExists
  readText path := attempted (IO.FS.readFile path)
  createDirectories path := attempted (IO.FS.createDirAll path)
  writeText path text := attempted (IO.FS.writeFile path text)
  connect _ := return .error (.connection "no database server can be reached")
  disconnect := nofun
  server := unreachableServer

end SqlBind.Cli

open SqlBind.Cli in
/-- Runs the program; the result tells the system whether it succeeded. -/
def main (arguments : List String) : IO UInt32 := do
  let report ← Program.run systemHost arguments
  IO.print report.output
  IO.eprint report.complaints
  match report.failure with
  | none => return 0
  | some failure =>
    IO.eprintln (failure.message {})
    return 1
