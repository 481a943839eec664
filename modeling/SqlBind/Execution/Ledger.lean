import SqlBind.Config
import SqlBind.Execution.Channel

/-!
Owns: the account that a batch keeps of the rows it affected, and the driver calls that change
it: committing after a success and rolling back after a failure.
-/

set_option autoImplicit false

namespace SqlBind.Execution

/-- Affected rows: those made durable, and those that the next rollback would undo. -/
structure Ledger where
  committed : Nat
  pending : Nat
deriving DecidableEq, Repr, Inhabited

namespace Ledger

def empty : Ledger := ⟨0, 0⟩

def total (l : Ledger) : Nat := l.committed + l.pending

/-- The ledger after `count` rows more were affected. -/
def add (l : Ledger) (count : Nat) : Ledger := { l with pending := l.pending + count }

def commit (l : Ledger) : Ledger := ⟨l.committed + l.pending, 0⟩

/-- The ledger after a rollback, whether it succeeded or not: what is not durable counts as
lost. -/
def discard (l : Ledger) : Ledger := { l with pending := 0 }

end Ledger

open Channel (emit attempt)

variable {σ : Type}

/-- Rolls back and tells how that ended. -/
def rollBack (d : Driver σ) (ledger : Ledger) : Action σ (Except DbError Unit) := do
  let result ← attempt d.rollback
  match result with
  | .error e => emit (.rollbackFailed e)
  | .ok () => pure ()
  if 0 < ledger.pending then emit (.discarded ledger.pending)
  return result

/-- The error `e`, together with the error of the rollback after it if that failed too. -/
def afterRollback (e : DbError) : Except DbError Unit → DbError
  | .ok () => e
  | .error rollback => .rollbackFailed e rollback

/-- Rolls back after an error that is not retried and wraps it with its place in the batch. -/
def interrupt (d : Driver σ) (ledger : Ledger) (chunk : ChunkRange) (index : Option Nat)
    (e : DbError) : Action σ DbError := do
  emit (.interrupted chunk e)
  let result ← rollBack d ledger
  return afterRollback (.interrupted index chunk ledger.discard.total e) result

/-- Enters `count` affected rows and, if the settings say so, commits them. -/
def settle (d : Driver σ) (config : ExecutorConfig) (ledger : Ledger) (chunk : ChunkRange)
    (index : Option Nat) (count : Nat) : Action σ Ledger := do
  let ledger := ledger.add count
  if config.commitChunks then
    match ← attempt d.commit with
    | .ok () => return ledger.commit
    | .error e => throw (← interrupt d ledger chunk index e)
  else return ledger

/-- Rolls back after a failed execution outside a batch. -/
def rollbackAfter (d : Driver σ) (e : DbError) : Action σ DbError := do
  match ← attempt d.rollback with
  | .ok () => return e
  | .error rollback =>
    emit (.rollbackFailed rollback)
    return .rollbackFailed e rollback

end SqlBind.Execution
