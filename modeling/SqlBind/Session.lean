import SqlBind.Binding
import SqlBind.Compiler
import SqlBind.Execution.Adaptive
import SqlBind.Execution.Atomic

/-!
Owns: sessions, which compile a statement, bind its records and execute it on a connection in one
call.
-/

set_option autoImplicit false

namespace SqlBind

/-- A connection with all that is needed to run statements with named placeholders on it. -/
structure Session (σ : Type) where
  driver : Driver σ
  config : SessionConfig
  compiler : Compiler
  channel : Channel σ

/-- What works on a session and may fail. -/
abbrev SessionAction (σ α : Type) := EStateM DbError (Session σ) α

namespace Session

variable {σ α : Type}

/-- A session with default settings, in the driver's own convention. -/
def new (driver : Driver σ) (conn : σ) : Session σ :=
  ⟨driver, {}, Compiler.new driver.style, ⟨conn, #[]⟩⟩

def withConfig (driver : Driver σ) (conn : σ) (config : SessionConfig) :
    Except DbError (Session σ) := do
  config.validate
  return ⟨driver, config,
    Compiler.withCache (config.paramStyle.getD driver.style) config.compileCache, ⟨conn, #[]⟩⟩

def style (s : Session σ) : ParamStyle := s.compiler.style

/-- Works on the connection of the session. -/
def onChannel (action : Driver σ → Action σ α) : SessionAction σ α := fun s =>
  match action s.driver s.channel with
  | .ok result channel => .ok result { s with channel := channel }
  | .error e channel => .error e { s with channel := channel }

/-- Fails with the error of a check, if it has one. -/
def check (result : Except DbError α) : SessionAction σ α :=
  match result with
  | .ok value => pure value
  | .error e => throw e

/-- The compiled form of a statement, from the session's store if it is there. -/
def compile (sql : String) : SessionAction σ Statement := fun s =>
  match s.compiler.compile sql with
  | (.ok statement, compiler) => .ok statement { s with compiler := compiler }
  | (.error e, compiler) => .error e { s with compiler := compiler }

def commit : SessionAction σ Unit := onChannel fun d => Channel.perform d.commit

def rollback : SessionAction σ Unit := onChannel fun d => Channel.perform d.rollback

def autocommit : SessionAction σ Unit := do
  if (← get).config.autocommit then commit

/-- Executes a compiled statement once. -/
def executeOnce (sql : String) (row : Row) : SessionAction σ Nat := do
  let count ← onChannel fun d => Execution.runOne d sql row
  autocommit
  return count

/-- Executes `sql` once with the values of `record`. -/
def write (sql : String) (record : Record) : SessionAction σ Nat := do
  let statement ← compile sql
  let row ← check (statement.bind record)
  executeOnce statement.sql row

/-- Executes `sql` for every record of a batch. An empty batch does nothing. -/
def writeMany (sql : String) (batch : Batch) : SessionAction σ Nat := do
  if batch.isEmpty then
    onChannel fun _ => Channel.emit .emptyBatch
    return 0
  let statement ← compile sql
  let rows ← check (statement.bindBatch batch)
  let config := (← get).config.executor
  onChannel fun d => Execution.run d config statement.sql rows

/-- Executes `sql` for every record of a batch inside the open transaction. -/
def writeManyAtomic (sql : String) (batch : Batch) : SessionAction σ Nat := do
  if batch.isEmpty then return 0
  let statement ← compile sql
  let rows ← check (statement.bindBatch batch)
  let config := (← get).config.executor
  onChannel fun d => Execution.runAtomic d config statement.sql rows

/-- Executes `sql` with whatever the arguments hold. Without any value for a single execution the
text is sent as it stands. -/
def execute (sql : String) : Args → SessionAction σ Nat
  | .many batch => writeMany sql batch
  | .one record => if record.isEmpty then executeOnce sql [] else write sql record
  | .none => executeOnce sql []

end Session

end SqlBind
