import SqlBind.Cli.Failure
import SqlBind.Postgres.Client
import SqlBind.Session

/-!
Owns: writing the records of a file into a database and reporting what became of them.
-/

set_option autoImplicit false

namespace SqlBind.Cli.Loading

/-- The settings of a loading: those of the file, changed by the command line. -/
def config (file : ConfigFile) (request : LoadRequest) : SessionConfig :=
  let settings := file.sessionConfig
  { settings with executor := { settings.executor with
      chunkSize := request.chunkSize.getD settings.executor.chunkSize
      failurePolicy := if request.isolate then .isolate else settings.executor.failurePolicy } }

def summary (applied records : Nat) : String :=
  toString applied ++ " rows affected (" ++ toString records ++ " records)\n"

def failureLine (failure : RecordFailure) : String :=
  "record " ++ toString failure.index ++ ": " ++ failure.error.message ++ " " ++ failure.record
    ++ "\n"

/-- What is reported if nothing but a part of the records, or none of them, failed. -/
def finished (applied records : Nat) (failures : List RecordFailure) : Report where
  output := summary applied records
  complaints := String.join (failures.map failureLine)
  failure := if failures.isEmpty then none else some (.recordsFailed failures.length records)

/-- What is reported if the batch stopped. -/
def stopped (e : DbError) : Report where
  complaints := match e.appliedRows with
    | some applied => toString applied ++ " rows were applied before the failure\n"
    | none => ""
  failure := some (.library e)

/-- Commits what was written and reports it, unless the commit fails. -/
def conclude {σ : Type} (report : Report) (session : Session σ) : Report × σ :=
  match Session.commit session with
  | .ok () session => (report, session.channel.conn)
  | .error e session => ({ failure := some (.library e) }, session.channel.conn)

def run {σ : Type} (driver : Driver σ) (config : SessionConfig) (sql : String) (batch : Batch)
    (conn : σ) : Report × σ :=
  match Session.withConfig driver conn config with
  | .error e => ({ failure := some (.library e) }, conn)
  | .ok session =>
    match Session.writeMany sql batch session with
    | .ok applied session => conclude (finished applied batch.size []) session
    | .error (.partialBatch applied failures) session =>
      conclude (finished applied batch.size failures) session
    | .error e session => (stopped e, session.channel.conn)

end SqlBind.Cli.Loading
