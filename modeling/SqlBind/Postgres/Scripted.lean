import SqlBind.Postgres.Server

/-!
Owns: a PostgreSQL server in memory for rehearsing a client. It notes the requests that reach it,
rejects what its script says, and may close the connection during an execution.
-/

set_option autoImplicit false

namespace SqlBind.Postgres

structure ServerScript where
  /-- The parameter types of statements, by their text. -/
  types : List (String × List ColumnType) := []
  /-- The parameter types of all other statements. -/
  otherTypes : List ColumnType := []
  /-- What an accepted execution affects. -/
  rows : Nat := 1
  /-- Rejected executions, by the octets of their first parameter. -/
  bad : List (Bytes × ServerReport) := []
  /-- Rejected transaction commands. -/
  brackets : List (Bracket × ServerReport) := []
  /-- The report that rejects every preparation. -/
  preparation : Option ServerReport := none
  /-- The execution during which the connection is closed, counted from 0. -/
  closeAt : Option Nat := none
deriving Inhabited

structure ServerState where
  script : ServerScript
  /-- Executions under this script. -/
  executions : Nat
  closed : Bool
  /-- What reached the server, oldest first. -/
  received : Array Request
deriving Inhabited

namespace ServerState

def start (script : ServerScript) : ServerState := ⟨script, 0, false, #[]⟩

def withScript (s : ServerState) (script : ServerScript) : ServerState :=
  { s with script := script, executions := 0 }

end ServerState

namespace Scripted

/-- Lets a request reach the server, if the connection is still open, and answers it. -/
def receive {α : Type} (r : Request) (answer : EStateM ServerFault ServerState α) :
    EStateM ServerFault ServerState α := fun s =>
  if s.closed then .error .closed s
  else answer { s with received := s.received.push r }

def rejectOr {α : Type} (report : Option ServerReport)
    (answer : EStateM ServerFault ServerState α) : EStateM ServerFault ServerState α :=
  match report with
  | some report => throw (.rejected report)
  | none => answer

def reportOn (script : ServerScript) : List (Option Bytes) → Option ServerReport
  | some octets :: _ => script.bad.lookup octets
  | _ => none

/-- Executes, unless this is the execution during which the connection is closed. -/
def execution (parameters : List (Option Bytes)) : EStateM ServerFault ServerState Nat := do
  let s ← get
  set { s with executions := s.executions + 1 }
  if s.script.closeAt = some s.executions then
    modify fun s => { s with closed := true }
    throw .closed
  rejectOr (reportOn s.script parameters) (return s.script.rows)

def server : Server ServerState where
  bracket command := receive (.bracket command) do
    rejectOr ((← get).script.brackets.lookup command) (return ())
  prepare sql := receive (.prepare sql) do
    let script := (← get).script
    rejectOr script.preparation (return (script.types.lookup sql).getD script.otherTypes)
  execute _ parameters := receive (.execute parameters) (execution parameters)

end Scripted

end SqlBind.Postgres
