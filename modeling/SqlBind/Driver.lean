import SqlBind.Error
import SqlBind.ParamStyle
import SqlBind.Value

/-!
Owns: what a database driver offers to the rest of the library. A driver is a set of calls on the
state of a connection; each call ends in a result or an error and leaves a new state either way.

Nothing is assumed of the state or of the answers, so a statement about every driver covers every
pattern of failures. `recorded` notes the calls that reach a driver and `looping` replaces its
bulk execution by single ones.
-/

set_option autoImplicit false

namespace SqlBind

/-- The calls on a connection with state `σ`. -/
structure Driver (σ : Type) where
  /-- How placeholders are to be written. -/
  style : ParamStyle
  /-- Executes a statement once and tells the affected rows. -/
  executeOne : String → Row → EStateM DbError σ Nat
  /-- Executes a statement once for each row and tells the sum of the affected rows. -/
  executeMany : String → List Row → EStateM DbError σ Nat
  /-- Undoes everything since the last commit. -/
  rollback : EStateM DbError σ Unit
  /-- Makes everything since the last commit durable. -/
  commit : EStateM DbError σ Unit

inductive Call where
  | one (sql : String) (row : Row)
  | many (sql : String) (rows : List Row)
  | rollback
  | commit
deriving Inhabited

/-- A call and how it ended; rollback and commit answer with no rows. -/
structure Exchange where
  call : Call
  answer : Except DbError Nat
deriving Inhabited

/-- A connection together with the exchanges on it, oldest first. -/
structure Recorded (σ : Type) where
  inner : σ
  exchanges : Array Exchange

namespace Recorded

/-- Runs `action` on the connection and notes how `call` ended. -/
def noting {σ α : Type} (call : Call) (rows : α → Nat) (action : EStateM DbError σ α) :
    EStateM DbError (Recorded σ) α := fun r =>
  match action r.inner with
  | .ok a inner => .ok a ⟨inner, r.exchanges.push ⟨call, .ok (rows a)⟩⟩
  | .error e inner => .error e ⟨inner, r.exchanges.push ⟨call, .error e⟩⟩

end Recorded

namespace Driver

variable {σ : Type}

/-- Executes the rows one by one, up to the first error. -/
def executeEach (executeOne : String → Row → EStateM DbError σ Nat) (sql : String) :
    Nat → List Row → EStateM DbError σ Nat
  | total, [] => pure total
  | total, row :: rest => do
    let count ← executeOne sql row
    executeEach executeOne sql (total + count) rest

/-- The driver with bulk execution done row by row. -/
def looping (d : Driver σ) : Driver σ :=
  { d with executeMany := fun sql rows => executeEach d.executeOne sql 0 rows }

def recorded (d : Driver σ) : Driver (Recorded σ) where
  style := d.style
  executeOne sql row := Recorded.noting (.one sql row) id (d.executeOne sql row)
  executeMany sql rows := Recorded.noting (.many sql rows) id (d.executeMany sql rows)
  rollback := Recorded.noting .rollback (fun _ => 0) d.rollback
  commit := Recorded.noting .commit (fun _ => 0) d.commit

end Driver

end SqlBind
