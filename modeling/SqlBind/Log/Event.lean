import SqlBind.Error
import SqlBind.Log.Excerpt

/-!
Owns: the events of the SQL log, with the level, the message and the fields of each.
-/

set_option autoImplicit false

namespace SqlBind.Log

inductive Level where
  | debug
  | warn
  | error
deriving DecidableEq, Repr, Inhabited

namespace Level

def name : Level → String
  | debug => "DEBUG"
  | warn => "WARN"
  | error => "ERROR"

end Level

/-- What the library tells the log. -/
inductive Event where
  /-- A statement is executed once. -/
  | executing (sql : String) (params : Nat)
  /-- The first chunk of a batch of `records` records. -/
  | firstChunk (sql : String) (records : Nat) (chunk : List Row)
  /-- A chunk is sent; batches without retries have no chunk size to tell. -/
  | sending (chunk : ChunkRange) (chunkSize : Option Nat)
  | chunkFailed (chunk : ChunkRange) (chunkSize : Nat) (error : DbError)
  | retryingRecords (chunk : ChunkRange)
  | shrinking (chunk : ChunkRange) (size newSize : Nat)
  | recordFailed (index : Nat) (record : String) (error : DbError)
  | interrupted (chunk : ChunkRange) (error : DbError)
  | rollbackFailed (error : DbError)
  /-- A rollback undid rows that were not committed. -/
  | discarded (rows : Nat)
  | emptyBatch
  | merged (table : String) (deleted inserted : Nat)
deriving Inhabited

inductive FieldValue where
  | number (n : Nat)
  | text (s : String)
deriving DecidableEq, Repr, Inhabited

namespace Event

def level : Event → Level
  | executing .. | firstChunk .. | sending .. | emptyBatch | merged .. => .debug
  | chunkFailed .. | retryingRecords .. | shrinking .. | discarded .. => .warn
  | recordFailed .. | interrupted .. | rollbackFailed .. => .error

def message : Event → String
  | executing .. => "execute"
  | firstChunk .. => "first chunk"
  | sending .. => "execute_many"
  | chunkFailed .. => "chunk failed"
  | retryingRecords .. => "retrying chunk one record at a time"
  | shrinking .. => "shrinking chunk size"
  | recordFailed .. => "record failed"
  | interrupted .. => "batch interrupted"
  | rollbackFailed .. => "rollback failed"
  | discarded .. => "rollback discarded uncommitted rows"
  | emptyBatch => "empty batch, nothing to execute"
  | merged .. => "merge"

def chunkFields (chunk : ChunkRange) : List (String × FieldValue) :=
  [("start", .number chunk.start), ("end", .number chunk.stop)]

def errorField (e : DbError) : String × FieldValue := ("error", .text e.message)

def fields : Event → List (String × FieldValue)
  | executing sql params => [("sql", .text (excerpt sql)), ("params", .number params)]
  | firstChunk sql records chunk =>
    [("sql", .text (excerpt sql)), ("records", .number records), ("preview", .text (preview chunk))]
  | sending chunk none => chunkFields chunk
  | sending chunk (some size) => chunkFields chunk ++ [("chunk_size", .number size)]
  | chunkFailed chunk size error =>
    chunkFields chunk ++ [("chunk_size", .number size), errorField error]
  | retryingRecords chunk => chunkFields chunk
  | shrinking chunk size newSize =>
    chunkFields chunk ++ [("from", .number size), ("to", .number newSize)]
  | recordFailed index record error =>
    [("index", .number index), ("record", .text record), errorField error]
  | interrupted chunk error => chunkFields chunk ++ [errorField error]
  | rollbackFailed error => [errorField error]
  | discarded rows => [("rows", .number rows)]
  | emptyBatch => []
  | merged table deleted inserted =>
    [("table", .text table), ("deleted", .number deleted), ("inserted", .number inserted)]

end Event

end SqlBind.Log
