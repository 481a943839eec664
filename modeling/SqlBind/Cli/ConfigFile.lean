import SqlBind.Cli.EnvReference
import SqlBind.Config.Document
import SqlBind.Text.Blank
import SqlBind.Toml.Reader

/-!
Owns: the settings file of the program. A database named on the command line replaces the one in
the file as it is; otherwise the references to environment variables in the file's are replaced.
-/

set_option autoImplicit false

namespace SqlBind.Cli

structure ConfigFile where
  version : String := "1"
  /-- How to reach the database. -/
  url : String := ""
  paramStyle : Option ParamStyle := none
  compileCache : Nat := 0
  executor : ExecutorConfig := {}
deriving DecidableEq, Repr, Inhabited

inductive ConfigFault where
  /-- The text is not TOML, or not of the form of a settings file. -/
  | malformed
  | version (found : String)
  | emptyUrl
  | reference (fault : EnvFault)
  | settings (error : DbError)
deriving Inhabited

namespace ConfigFault

/-- The text of the complaint; `toml` says what is wrong with a text that cannot be read. -/
def message (toml : String) : ConfigFault → String
  | malformed => toml
  | version found => "unsupported config version: " ++ found
  | emptyUrl => "database.url is empty"
  | reference fault => fault.message
  | settings error => ": ".intercalate (error.message :: error.causes)

end ConfigFault

namespace ConfigFile

open Config

/-- The section on the database: how to reach it. -/
def database? (document : Json) : Option String := do
  match ← section? .file true ["url"] document with
  | [url] => partOr "" text? url
  | _ => none

/-- The section on sessions: the convention and the number of stored statements. If the section is
a list, it begins with the convention. -/
def session? (document : Json) : Option (Option ParamStyle × Nat) := do
  match document with
  | .array [] => none
  | _ =>
    match ← section? .file true ["param_style", "compile_cache"] document with
    | [style, cache] =>
      return (← partOr none (optional? (choice? .file ParamStyle.ofName?)) style,
        ← partOr 0 nat? cache)
    | _ => none

/-- The settings of a document. The version must be there, everything else has a default. -/
def ofDocument? (document : Json) : Option ConfigFile := do
  match ← section? .file true ["version", "database", "session", "executor"] document with
  | [version, database, session, executor] =>
    let version ← text? (← version)
    let url ← partOr "" database? database
    let (style, cache) ← partOr (none, 0) session? session
    let executor ← partOr {} (executor? .file) executor
    return ⟨version, url, style, cache, executor⟩
  | _ => none

/-- Refuses other versions, an empty database and what the settings of batches refuse. -/
def validate (file : ConfigFile) : Except ConfigFault Unit :=
  if file.version ≠ "1" then .error (.version file.version)
  else if Text.allBlank file.url.toList then .error .emptyUrl
  else
    match file.executor.validate with
    | .ok () => .ok ()
    | .error e => .error (.settings e)

/-- The settings with their final database: the one of the command line, or the file's with its
references replaced. -/
def settle (override : Option String) (lookup : String → Option String) (file : ConfigFile) :
    Except ConfigFault ConfigFile := do
  let url ← match override with
    | some url => pure url
    | none =>
      match EnvReference.expand lookup file.url with
      | .ok url => pure url
      | .error fault => throw (.reference fault)
  let settled := { file with url := url }
  settled.validate
  return settled

def parse (override : Option String) (lookup : String → Option String) (text : String) :
    Except ConfigFault ConfigFile :=
  match (Toml.read? text).bind ofDocument? with
  | some file => file.settle override lookup
  | none => .error .malformed

/-- The variables that reading a text may ask for. -/
def names (text : String) : List String :=
  match (Toml.read? text).bind ofDocument? with
  | some file => EnvReference.names file.url
  | none => []

/-- The settings without a file, for a database named on the command line. -/
def standard (url : String) : Except ConfigFault ConfigFile := do
  let file : ConfigFile := { url := url }
  file.validate
  return file

def sessionConfig (file : ConfigFile) : SessionConfig where
  paramStyle := file.paramStyle
  executor := file.executor
  compileCache := file.compileCache
  autocommit := false

end ConfigFile

end SqlBind.Cli
