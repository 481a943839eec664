/-!
Owns: everything that can go wrong between a statement and the rows it affects, the text of each
error, and what later code decides by it: whether a batch may retry, and how many rows a failed
batch left applied.
-/

set_option autoImplicit false

namespace SqlBind

/-- The records `start`, …, `stop - 1` of a batch. -/
structure ChunkRange where
  start : Nat
  stop : Nat
deriving DecidableEq, Repr, Inhabited

/-- What a database server reports about a statement that it rejects. -/
structure ServerReport where
  code : String
  message : String
  constraint : Option String
deriving DecidableEq, Repr, Inhabited

structure FailedRecord (ε : Type) where
  index : Nat
  record : String
  error : ε

/-- What can go wrong while statements are compiled, bound and executed. -/
inductive DbError where
  /-- A colon in the SQL, at a byte offset, that introduces no placeholder. -/
  | malformedPlaceholder (position : Nat) (message : String)
  /-- The statement names a key that the record, of that index in its batch, does not hold. -/
  | missingParameter (key : String) (record : Option Nat)
  /-- The database rejected a statement. -/
  | database (code : Option String) (message : String) (report : Option ServerReport)
  /-- A request failed on the client's side of a PostgreSQL connection. -/
  | query (message : String) (reason : Option String)
  /-- A driver was used wrongly. -/
  | driver (message : String)
  /-- One record failed on its own. -/
  | execution (index : Nat) (chunk : ChunkRange) (applied : Nat) (record : String)
      (source : DbError)
  /-- A batch stopped on an error that it does not retry. -/
  | interrupted (index : Option Nat) (chunk : ChunkRange) (applied : Nat) (source : DbError)
  /-- Records failed; all others were applied. -/
  | partialBatch (applied : Nat) (failures : List (FailedRecord DbError))
  /-- Rolling back after `error` failed as well. -/
  | rollbackFailed (error rollback : DbError)
  | connection (message : String)
  | validation (message : String)
  | config (message : String)
  | other (message : String)
deriving Inhabited

/-- A record of a batch that the database rejected. -/
abbrev RecordFailure := FailedRecord DbError

namespace DbError

/-- Where a batch stopped, for its error text. -/
def chunkText (chunk : ChunkRange) : String :=
  toString chunk.start ++ ".." ++ toString chunk.stop

def message : DbError → String
  | malformedPlaceholder position text =>
    "Malformed placeholder at byte " ++ toString position ++ ": " ++ text
  | missingParameter key none => "Missing parameter '" ++ key ++ "'"
  | missingParameter key (some record) =>
    "Missing parameter '" ++ key ++ "' in record " ++ toString record
  | database _ text _ => "Database error: " ++ text
  | query text _ => "Query error: " ++ text
  | driver text => "Driver error: " ++ text
  | execution index chunk applied _ source =>
    "Execution failed at record " ++ toString index ++ " (chunk " ++ chunkText chunk ++ ", "
      ++ toString applied ++ " rows applied): " ++ source.message
  | interrupted none chunk applied source =>
    "Batch interrupted at chunk " ++ chunkText chunk ++ " (" ++ toString applied
      ++ " rows applied): " ++ source.message
  | interrupted (some index) chunk applied source =>
    "Batch interrupted at record " ++ toString index ++ ", chunk " ++ chunkText chunk ++ " ("
      ++ toString applied ++ " rows applied): " ++ source.message
  | partialBatch applied failures =>
    "Batch finished with " ++ toString failures.length ++ " failed record(s), "
      ++ toString applied ++ " rows applied"
  | rollbackFailed error rollback =>
    error.message ++ " (rollback failed: " ++ rollback.message ++ ")"
  | connection text => "Connection error: " ++ text
  | validation text => "Validation error: " ++ text
  | config text => "Configuration error: " ++ text
  | other text => text

/-- Whether the database itself rejected the statement. -/
def isDatabaseError : DbError → Bool
  | database .. => true
  | _ => false

/-- Whether a batch may try again with a smaller chunk. -/
def isRetryable (e : DbError) : Bool := e.isDatabaseError

/-- Whether the statement or its record is at fault, before any driver is involved. -/
def isCompileError : DbError → Bool
  | malformedPlaceholder .. => true
  | missingParameter .. => true
  | _ => false

/-- The rows that a failed batch left applied, if the error comes from a batch. -/
def appliedRows : DbError → Option Nat
  | execution _ _ applied _ _ => some applied
  | interrupted _ _ applied _ => some applied
  | partialBatch applied _ => some applied
  | rollbackFailed error _ => error.appliedRows
  | _ => none

def code : DbError → Option String
  | database code _ _ => code
  | execution _ _ _ _ source => source.code
  | interrupted _ _ _ source => source.code
  | rollbackFailed error _ => error.code
  | _ => none

/-- The texts of the causes behind an error, the nearest first. -/
def causes : DbError → List String
  | database _ _ (some report) => ["db error", "ERROR: " ++ report.message]
  | query text reason => text :: reason.toList
  | execution _ _ _ _ source => source.message :: source.causes
  | interrupted _ _ _ source => source.message :: source.causes
  | _ => []

/-- The error for a rejection that a server reports. A violated constraint is named first. -/
def ofReport (report : ServerReport) : DbError :=
  let text := match report.constraint with
    | some constraint => constraint ++ ": " ++ report.message
    | none => report.message
  database (some report.code) text (some report)

end DbError

end SqlBind
