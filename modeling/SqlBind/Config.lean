import SqlBind.Error
import SqlBind.ParamStyle

/-!
Owns: the settings of batches and sessions, their defaults and their one rule: a chunk holds at
least one record.
-/

set_option autoImplicit false

namespace SqlBind

/-- What a batch does with a record that fails on its own. -/
inductive FailurePolicy where
  /-- The batch stops at the first such record. -/
  | abort
  /-- The record is skipped; all such records are reported at the end. -/
  | isolate
deriving DecidableEq, Repr, Inhabited

namespace FailurePolicy

def name : FailurePolicy → String
  | abort => "abort"
  | isolate => "isolate"

def ofName? : String → Option FailurePolicy
  | "abort" => some abort
  | "isolate" => some isolate
  | _ => none

end FailurePolicy

/-- The settings of a batch. -/
structure ExecutorConfig where
  /-- The records of a chunk, until failures make chunks smaller. -/
  chunkSize : Nat := 10000
  /-- Whether the log shows the statement and the first records. -/
  verboseFirstChunk : Bool := false
  /-- Whether every chunk and every single record that succeeds is committed at once. -/
  commitChunks : Bool := true
  failurePolicy : FailurePolicy := .abort
deriving DecidableEq, Repr, Inhabited

namespace ExecutorConfig

/-- Refuses chunks without records. -/
def validate (c : ExecutorConfig) : Except DbError Unit :=
  if c.chunkSize = 0 then .error (.config "chunk_size must be positive") else .ok ()

end ExecutorConfig

structure SessionConfig where
  /-- A convention to use instead of the driver's own. -/
  paramStyle : Option ParamStyle := none
  executor : ExecutorConfig := {}
  /-- How many compiled statements are stored. -/
  compileCache : Nat := 0
  /-- Whether every single write is committed at once. -/
  autocommit : Bool := false
deriving DecidableEq, Repr, Inhabited

namespace SessionConfig

/-- Refuses what its batch settings refuse. -/
def validate (c : SessionConfig) : Except DbError Unit := c.executor.validate

end SessionConfig

/-- Up to this chunk size, or length of the stretch that it was chosen for, a failed chunk is
tried again record by record. -/
def perRecordThreshold : Nat := 10

end SqlBind
