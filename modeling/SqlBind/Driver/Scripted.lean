import SqlBind.Driver

/-!
Owns: a driver in memory for rehearsing batches. It keeps two counters, of the rows that the open
transaction holds and of those made durable, and fails where its script says.
-/

set_option autoImplicit false

namespace SqlBind

/-- Kinds of errors that a scripted driver can be told to fail with. -/
inductive FaultKind where
  | driver
  | connection
  | validation
  | config
  | other
  | missing
deriving DecidableEq, Repr, Inhabited

namespace FaultKind

/-- The kind of a name; unknown names mean a driver error. -/
def ofName : String → FaultKind
  | "connection" => connection
  | "validation" => validation
  | "config" => config
  | "other" => other
  | "missing" => missing
  | _ => driver

def error (kind : FaultKind) : DbError :=
  let text := "cursor already closed"
  match kind with
  | driver => .driver text
  | connection => .connection text
  | validation => .validation text
  | config => .config text
  | other => .other text
  | missing => .missingParameter text none

end FaultKind

inductive CommitFault where
  /-- The database rejects it. -/
  | conflict
  | broken (kind : FaultKind)
deriving DecidableEq, Repr, Inhabited

namespace CommitFault

def error : CommitFault → DbError
  | conflict => .database (some "40001") "could not serialize access" none
  | broken kind => kind.error

end CommitFault

/-- Where a scripted driver fails. -/
structure DriverScript where
  /-- Rows beginning with one of these integers are rejected by the database. -/
  bad : List Int := []
  /-- Rows beginning with one of these integers break the driver. -/
  broken : List Int := []
  brokenKind : FaultKind := .driver
  /-- Whether every row is rejected. -/
  failAll : Bool := false
  /-- The longest chunk that the database takes. -/
  maxRows : Option Nat := none
  /-- Whether bulk execution is broken altogether. -/
  interfaceError : Bool := false
  rollbacksBeforeFailure : Option Nat := none
  commitsBeforeFailure : Option Nat := none
  commitFault : CommitFault := .conflict
  /-- What an accepted row affects. -/
  rowsPerRecord : Nat := 1
deriving Inhabited

/-- The state of a scripted driver: its script, how often each end of a transaction was asked for
under it, and the two counters. -/
structure ScriptedState where
  script : DriverScript
  rollbacks : Nat
  commits : Nat
  pending : Nat
  committed : Nat
deriving Inhabited

namespace ScriptedState

def start (script : DriverScript) : ScriptedState := ⟨script, 0, 0, 0, 0⟩

def withScript (s : ScriptedState) (script : DriverScript) : ScriptedState :=
  { s with script := script, rollbacks := 0, commits := 0 }

end ScriptedState

namespace Scripted

/-- Whether a row begins with one of the integers. -/
def beginsWith (integers : List Int) (row : Row) : Bool :=
  match row with
  | .int i :: _ => integers.contains i.toInt
  | _ => false

/-- How a row fares: what it affects, or the error it meets. `showRow` gives the text of a rejected
row. -/
def checkRow (showRow : Row → String) (script : DriverScript) (row : Row) : Except DbError Nat :=
  if beginsWith script.broken row then .error script.brokenKind.error
  else if script.failAll || beginsWith script.bad row then
    .error (.database (some "23505") ("duplicate key value: " ++ showRow row) none)
  else .ok script.rowsPerRecord

/-- How a list of rows fares: the sum of what they affect, or the first error. -/
def checkRows (showRow : Row → String) (script : DriverScript) : Nat → List Row → Except DbError Nat
  | total, [] => .ok total
  | total, row :: rest =>
    match checkRow showRow script row with
    | .error e => .error e
    | .ok count => checkRows showRow script (total + count) rest

/-- How a chunk fares. -/
def checkChunk (showRow : Row → String) (script : DriverScript) (rows : List Row) :
    Except DbError Nat :=
  if script.interfaceError then .error script.brokenKind.error
  else
    match script.maxRows with
    | some most =>
      if most < rows.length then .error (.database none "too many rows" none)
      else checkRows showRow script 0 rows
    | none => checkRows showRow script 0 rows

/-- Enters a result into the open transaction. -/
def enter (result : Except DbError Nat) : EStateM DbError ScriptedState Nat := fun s =>
  match result with
  | .ok count => .ok count { s with pending := s.pending + count }
  | .error e => .error e s

/-- Whether the call after `done` others still works. -/
def works (before : Option Nat) (done : Nat) : Bool :=
  match before with
  | none => true
  | some most => done < most

def rollback : EStateM DbError ScriptedState Unit := fun s =>
  let counted := { s with rollbacks := s.rollbacks + 1 }
  if works s.script.rollbacksBeforeFailure s.rollbacks then .ok () { counted with pending := 0 }
  else .error (.connection "server closed the connection") counted

def commit : EStateM DbError ScriptedState Unit := fun s =>
  let counted := { s with commits := s.commits + 1 }
  if works s.script.commitsBeforeFailure s.commits then
    .ok () { counted with committed := s.committed + s.pending, pending := 0 }
  else .error s.script.commitFault.error counted

/-- The driver for statements in the convention `style`. -/
def driver (style : ParamStyle) (showRow : Row → String) : Driver ScriptedState where
  style := style
  executeOne _ row := do enter (checkRow showRow (← get).script row)
  executeMany _ rows := do enter (checkChunk showRow (← get).script rows)
  rollback := rollback
  commit := commit

end Scripted

end SqlBind
