import SqlBind.Driver
import SqlBind.Postgres.Server

/-!
Owns: the driver for PostgreSQL. A transaction is opened by the first execution that needs one;
commit and rollback close it, and do nothing when none is open.
-/

set_option autoImplicit false

namespace SqlBind.Postgres

structure Connection (τ : Type) where
  server : τ
  /-- Whether a transaction was opened and not closed since. -/
  inTransaction : Bool

namespace Connection

variable {τ α : Type}

def request (r : EStateM ServerFault τ α) : EStateM DbError (Connection τ) α := fun c =>
  match r c.server with
  | .ok answer server => .ok answer { c with server := server }
  | .error fault server => .error fault.toDbError { c with server := server }

/-- Opens a transaction unless one is open. -/
def openTransaction (s : Server τ) : EStateM DbError (Connection τ) Unit := do
  if !(← get).inTransaction then
    request (s.bracket .begin)
    modify fun c => { c with inTransaction := true }

/-- Closes the transaction, if one is open. It counts as closed even if the command fails. -/
def closeTransaction (s : Server τ) (command : Bracket) : EStateM DbError (Connection τ) Unit := do
  if (← get).inTransaction then
    modify fun c => { c with inTransaction := false }
    request (s.bracket command)

/-- The octets of each value of a row, in the types of the parameters. -/
def encodeRow (index : Nat) : List ColumnType → Row → Except DbError (List (Option Bytes))
  | type :: types, value :: row =>
    match encode value type with
    | .error fault =>
      .error (.query ("error serializing parameter " ++ toString index) (some fault.message))
    | .ok octets => (encodeRow (index + 1) types row).map (octets :: ·)
  | _, _ => .ok []

def parameters (types : List ColumnType) (row : Row) : Except DbError (List (Option Bytes)) :=
  if types.length = row.length then encodeRow 0 types row
  else .error (.query ("expected " ++ toString types.length ++ " parameters but got "
    ++ toString row.length) none)

/-- Executes a prepared statement with the values of a row. -/
def executePrepared (s : Server τ) (sql : String) (types : List ColumnType) (row : Row) :
    EStateM DbError (Connection τ) Nat :=
  match parameters types row with
  | .error e => throw e
  | .ok octets => request (s.execute sql octets)

/-- Executes a prepared statement for each row, up to the first error. -/
def executeRows (s : Server τ) (sql : String) (types : List ColumnType) :
    Nat → List Row → EStateM DbError (Connection τ) Nat
  | total, [] => return total
  | total, row :: rest => do
    let count ← executePrepared s sql types row
    executeRows s sql types (total + count) rest

end Connection

open Connection in
/-- The driver over a server. A single execution prepares its statement, a bulk execution
prepares it once for all rows. -/
def driver {τ : Type} (s : Server τ) : Driver (Connection τ) where
  style := .dollar
  executeOne sql row := do
    openTransaction s
    let types ← request (s.prepare sql)
    executePrepared s sql types row
  executeMany sql rows := do
    openTransaction s
    let types ← request (s.prepare sql)
    executeRows s sql types 0 rows
  rollback := closeTransaction s .rollback
  commit := closeTransaction s .commit

end SqlBind.Postgres
