import SqlBind.Error
import SqlBind.Postgres.Encoding

/-!
Owns: what a PostgreSQL server offers to its client. A request changes the state of the server
and is answered, rejected with a report, or finds the connection closed.
-/

set_option autoImplicit false

namespace SqlBind.Postgres

inductive ServerFault where
  | rejected (report : ServerReport)
  | closed
deriving DecidableEq, Repr, Inhabited

namespace ServerFault

/-- The error for a failed request. Only rejections are errors of the database. -/
def toDbError : ServerFault → DbError
  | rejected report => .ofReport report
  | closed => .query "connection closed" none

end ServerFault

/-- The commands that bracket a transaction. -/
inductive Bracket where
  | begin
  | commit
  | rollback
deriving DecidableEq, Repr, Inhabited

namespace Bracket

def sql : Bracket → String
  | begin => "BEGIN"
  | commit => "COMMIT"
  | rollback => "ROLLBACK"

end Bracket

/-- The requests to a server with state `τ`. -/
structure Server (τ : Type) where
  bracket : Bracket → EStateM ServerFault τ Unit
  /-- Prepares a statement and tells the types of its parameters. -/
  prepare : String → EStateM ServerFault τ (List ColumnType)
  /-- Executes a prepared statement and tells the affected rows. -/
  execute : String → List (Option Bytes) → EStateM ServerFault τ Nat

inductive Request where
  | bracket (command : Bracket)
  | prepare (sql : String)
  | execute (parameters : List (Option Bytes))
deriving DecidableEq, Repr, Inhabited

end SqlBind.Postgres
