import SqlBind.Execution.Ledger
import SqlBind.Execution.Stretch

/-!
Owns: executing a statement for every row of a batch. Rows are sent in chunks; a chunk that the
database rejects is rolled back and tried again in chunks of a tenth of the size, and small
chunks record by record. What still waits keeps its chunk size, so a bad record slows down its own
neighbourhood only.
-/

set_option autoImplicit false

namespace SqlBind.Execution

open Channel (emit attempt)

variable {σ : Type}

/-- How far a batch has come. -/
structure Progress where
  ledger : Ledger
  /-- The records that failed on their own, in order. -/
  failures : Array RecordFailure

namespace Progress

def start : Progress := ⟨Ledger.empty, #[]⟩

end Progress

/-- Executes the rows of a chunk one by one; `index` is the place of the first of them. -/
def runRecords (d : Driver σ) (config : ExecutorConfig) (sql : String) (chunk : ChunkRange) :
    Nat → List Row → Progress → Action σ Progress
  | _, [], progress => return progress
  | index, row :: rest, progress => do
    match ← attempt (d.executeOne sql row) with
    | .ok count =>
      let ledger ← settle d config progress.ledger chunk (some index) count
      runRecords d config sql chunk (index + 1) rest { progress with ledger := ledger }
    | .error e =>
      if e.isRetryable then
        let record := Row.describe row
        emit (.recordFailed index record e)
        let ledger := progress.ledger.discard
        let failed := DbError.execution index chunk ledger.total record e
        match ← rollBack d progress.ledger with
        | .error rollback => throw (.rollbackFailed failed rollback)
        | .ok () =>
          match config.failurePolicy with
          | .abort => throw failed
          | .isolate =>
            runRecords d config sql chunk (index + 1) rest
              ⟨ledger, progress.failures.push ⟨index, record, e⟩⟩
      else throw (← interrupt d progress.ledger chunk (some index) e)

def drain (d : Driver σ) (config : ExecutorConfig) (sql : String) :
    List Stretch → Progress → Action σ Progress
  | [], progress => return progress
  | stretch :: rest, progress => do
    let chunk := stretch.range
    emit (.sending chunk (some stretch.chunkSize))
    match ← attempt (d.executeMany sql stretch.chunk) with
    | .ok count =>
      let ledger ← settle d config progress.ledger chunk none count
      drain d config sql (stretch.remaining ++ rest) { progress with ledger := ledger }
    | .error e =>
      if e.isRetryable then
        emit (.chunkFailed chunk stretch.chunkSize e)
        let ledger := progress.ledger.discard
        match ← rollBack d progress.ledger with
        | .error rollback =>
          throw (.rollbackFailed (.interrupted none chunk ledger.total e) rollback)
        | .ok () =>
          if _small : stretch.isSmall then
            emit (.retryingRecords chunk)
            let progress ← runRecords d config sql chunk stretch.start stretch.chunk
              { progress with ledger := ledger }
            drain d config sql (stretch.remaining ++ rest) progress
          else
            emit (.shrinking chunk stretch.chunkSize (shrink stretch.chunkSize stretch.width))
            drain d config sql (stretch.retry :: (stretch.remaining ++ rest))
              { progress with ledger := ledger }
      else throw (← interrupt d progress.ledger chunk none e)
termination_by stretches => Stretch.totalWork stretches
decreasing_by
  · exact Stretch.work_remaining_lt stretch rest
  · exact Stretch.work_remaining_lt stretch rest
  · exact Stretch.work_retry_lt stretch rest (by simpa using _small)

/-- Executes `sql` once for each row and tells how many rows that affected in the end. Rows that a
rollback undid do not count. -/
def run (d : Driver σ) (config : ExecutorConfig) (sql : String) (rows : List Row) :
    Action σ Nat := do
  match config.validate with
  | .error e => throw e
  | .ok () =>
    if h : 0 < config.chunkSize ∧ rows ≠ [] then
      let whole : Stretch := ⟨0, rows, config.chunkSize, rows.length, h.1, h.2⟩
      if config.verboseFirstChunk then emit (.firstChunk sql rows.length whole.chunk)
      let progress ← drain d config sql [whole] Progress.start
      if progress.failures.isEmpty then return progress.ledger.total
      else throw (.partialBatch progress.ledger.total progress.failures.toList)
    else return 0

end SqlBind.Execution
