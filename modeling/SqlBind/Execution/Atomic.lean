import SqlBind.Execution.Ledger

/-!
Owns: executing statements inside the open transaction: a batch that is neither retried nor
committed, and a single execution. A failure rolls the whole transaction back.
-/

set_option autoImplicit false

namespace SqlBind.Execution

open Channel (emit attempt)

variable {σ : Type}

/-- Sends rows in chunks of `chunkSize`; `start` is the place of the first of them and `applied`
what the chunks before it affected. -/
def sendChunks (d : Driver σ) (sql : String) (chunkSize : Nat) (positive : 0 < chunkSize)
    (start applied : Nat) (rows : List Row) : Action σ Nat := do
  if _nonempty : rows = [] then return applied
  else
    let chunk := rows.take chunkSize
    let range : ChunkRange := ⟨start, start + chunk.length⟩
    emit (.sending range none)
    match ← attempt (d.executeMany sql chunk) with
    | .ok count =>
      sendChunks d sql chunkSize positive range.stop (applied + count) (rows.drop chunkSize)
    | .error e => throw (← rollbackAfter d (.interrupted none range 0 e))
termination_by rows.length
decreasing_by
  have := List.length_pos_iff.mpr _nonempty
  simp only [List.length_drop]
  omega

/-- Executes every chunk inside the open transaction. After a failure nothing is left applied, not
even what the transaction held before. -/
def runAtomic (d : Driver σ) (config : ExecutorConfig) (sql : String) (rows : List Row) :
    Action σ Nat := do
  match config.validate with
  | .error e => throw e
  | .ok () =>
    if positive : 0 < config.chunkSize then sendChunks d sql config.chunkSize positive 0 0 rows
    else return 0

def runOne (d : Driver σ) (sql : String) (row : Row) : Action σ Nat := do
  emit (.executing sql row.length)
  match ← attempt (d.executeOne sql row) with
  | .ok count => return count
  | .error e => throw (← rollbackAfter d e)

end SqlBind.Execution
