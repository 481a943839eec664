import SqlBind.Proofs.Batch.Accounting
import SqlBind.Proofs.Batch.Discipline
import SqlBind.Proofs.Session.Calls
import SqlBind.Proofs.Table.Statements

/-!
Owns: merging records into a table. Everything is checked before the first driver call, and the two
statements always compile and bind, so that after the deletes only the driver can fail.

Main statements: what a merge does to the driver (`merge_makes`), and that it is all or nothing
(`merge_all_or_nothing`).
-/

set_option autoImplicit false

namespace SqlBind

open Execution (ending afterRollback Sent Counters Transactional of_ending_ok of_ending_error)
open Execution.Trial (rollbackExchange)

variable {σ : Type}

/-! ### Checks before the first call -/

/-- An error of a check is none of a batch. -/
def Quiet {α : Type} (checked : Except DbError α) : Prop :=
  ∀ e, checked = .error e → e.appliedRows = none

namespace Table

private theorem quiet_parseName (text : String) : Quiet (parseName text) := by
  intro e fails
  unfold parseName at fails
  split at fails
  · cases fails
  · cases fails
    rfl

theorem quiet_named (text : String) : Quiet (named text) := by
  intro e fails
  unfold named at fails
  cases read : parseName text with
  | error other =>
      rw [read] at fails
      cases fails
      exact quiet_parseName text e read
  | ok name =>
      rw [read] at fails
      cases fails

theorem quiet_columns (names : List String) : Quiet (columns names) := by
  intro e fails
  obtain ⟨name, -, fails⟩ := exists_of_mapM_error fails
  exact quiet_parseName name e fails

private theorem quiet_checkUnique (available unique : List String) :
    Quiet (checkUnique available unique) := by
  intro e fails
  unfold checkUnique at fails
  split at fails
  · cases fails
    rfl
  · cases fails

theorem quiet_valuesAt (keys : List String) (record : KeyedRecord) (index : Option Nat) :
    Quiet (valuesAt keys record index) := by
  intro e fails
  obtain ⟨key, -, fails⟩ := exists_of_mapM_error fails
  split at fails
  · cases fails
  · cases fails
    rfl

end Table

namespace Statement

variable {α : Type} {one : α → Option Nat → Except DbError Row}

theorem quiet_bindEach (quiet : ∀ record index, Quiet (one record index)) (index : Nat)
    (records : List α) : Quiet (bindEach one index records) := by
  intro e fails
  induction records generalizing index with
  | nil => cases fails
  | cons record rest inductionHypothesis =>
      rcases of_bind_error fails with here | ⟨row, _, fails⟩
      · exact quiet record _ e here
      · rcases of_bind_error fails with later | ⟨rows, _, fails⟩
        · exact inductionHypothesis _ later
        · cases fails

theorem length_bindEach {index : Nat} {records : List α} {rows : List Row}
    (binds : bindEach one index records = .ok rows) : rows.length = records.length := by
  induction records generalizing index rows with
  | nil =>
      cases binds
      rfl
  | cons record rest inductionHypothesis =>
      obtain ⟨row, _, binds⟩ := of_bind_ok binds
      obtain ⟨later, bound, binds⟩ := of_bind_ok binds
      cases binds
      exact congrArg (· + 1) (inductionHypothesis bound)

end Statement

namespace Table

/-- Collecting the values of records fails with no error of a batch. -/
theorem quiet_project (records : List KeyedRecord) (keys : List String) :
    Quiet (project records keys) :=
  Statement.quiet_bindEach (quiet_valuesAt keys) 0 records

/-- A merge with records has rows to send. -/
theorem project_ne_nil {records : List KeyedRecord} {keys : List String} {rows : List Row}
    (projected : project records keys = .ok rows) (nonempty : records ≠ []) : rows ≠ [] := by
  intro none
  subst none
  have same := Statement.length_bindEach projected
  exact nonempty (List.length_eq_zero_iff.mp same.symm)

/-! ### The course of a merge -/

structure MergePlan where
  deletion : Statement
  deleteRows : List Row
  insertion : Statement
  insertRows : List Row

/-- The plan for records, the first of which decides the inserted columns. -/
structure MergePlan.Fits (plan : MergePlan) (t : Table) (first : KeyedRecord)
    (rest : List KeyedRecord) (unique : List String) (style : ParamStyle) : Prop where
  deletion : ∃ conditioned, columns unique = .ok conditioned ∧
    compile (Sql.deleteText t.name conditioned) style = .ok plan.deletion
  deleteRows : project (first :: rest) unique = .ok plan.deleteRows
  insertion : ∃ names, columns first.keys = .ok names ∧
    compile (Sql.insertText t.name names) style = .ok plan.insertion
  insertRows : project (first :: rest) first.keys = .ok plan.insertRows

/-- What the end of a merge does to the driver. -/
inductive Settling (d : Driver σ) (config : ExecutorConfig) (conn : σ) :
    List Exchange → Except DbError Unit → σ → Prop where
  | left (mode : config.commitChunks = false) : Settling d config conn [] (.ok ()) conn
  | committed {after : σ} (mode : config.commitChunks = true)
      (settled : ending d.commit conn = (.ok (), after)) :
      Settling d config conn [⟨.commit, .ok 0⟩] (.ok ()) after
  | uncommitted {e : DbError} {rollback : Except DbError Unit} {middle after : σ}
      (mode : config.commitChunks = true) (refused : ending d.commit conn = (.error e, middle))
      (undone : ending d.rollback middle = (rollback, after)) :
      Settling d config conn [⟨.commit, .error e⟩, rollbackExchange rollback]
        (.error (afterRollback e rollback)) after

/-- What sending the statements of a merge does to the driver. -/
inductive Sending (d : Driver σ) (config : ExecutorConfig) (plan : MergePlan) (conn : σ) :
    List Exchange → Except DbError MergeOutcome → σ → Prop where
  | undeleted {made : List Exchange} {e : DbError} {after : σ}
      (deletes : Sent d plan.deletion.sql config.chunkSize 0 0 plan.deleteRows conn made (.error e)
        after) :
      Sending d config plan conn made (.error e) after
  | uninserted {made later : List Exchange} {deleted : Nat} {e : DbError} {middle after : σ}
      (deletes : Sent d plan.deletion.sql config.chunkSize 0 0 plan.deleteRows conn made
        (.ok deleted) middle)
      (inserts : Sent d plan.insertion.sql config.chunkSize 0 0 plan.insertRows middle later
        (.error e) after) :
      Sending d config plan conn (made ++ later) (.error e) after
  | sent {made later ends : List Exchange} {deleted inserted : Nat} {middle last after : σ}
      {result : Except DbError Unit}
      (deletes : Sent d plan.deletion.sql config.chunkSize 0 0 plan.deleteRows conn made
        (.ok deleted) middle)
      (inserts : Sent d plan.insertion.sql config.chunkSize 0 0 plan.insertRows middle later
        (.ok inserted) last)
      (settles : Settling d config last ends result after) :
      Sending d config plan conn (made ++ (later ++ ends))
        (result.map fun () => ⟨deleted, inserted⟩) after

/-- What a merge does to the driver. -/
inductive Merging (d : Driver σ) (config : ExecutorConfig) (t : Table) (style : ParamStyle)
    (unique : List String) (conn : σ) :
    List KeyedRecord → List Exchange → Except DbError MergeOutcome → σ → Prop where
  | refused {records : List KeyedRecord} {e : DbError} (quiet : e.appliedRows = none) :
      Merging d config t style unique conn records [] (.error e) conn
  | empty : Merging d config t style unique conn [] [] (.ok ⟨0, 0⟩) conn
  | sent {first : KeyedRecord} {rest : List KeyedRecord} {plan : MergePlan} {made : List Exchange}
      {result : Except DbError MergeOutcome} {after : σ}
      (fits : plan.Fits t first rest unique style)
      (sending : Sending d config plan conn made result after) :
      Merging d config t style unique conn (first :: rest) made result after

section Makes

variable {s : Session σ} {t : Table}

def commitOrUndo (d : Driver σ) : Action σ Unit := do
  match ← Channel.attempt d.commit with
  | .ok () => return ()
  | .error e => throw (← Execution.rollbackAfter d e)

private theorem commitOrUndo_makes {d : Driver σ} {config : ExecutorConfig}
    (mode : config.commitChunks = true) (conn : σ) :
    ∃ made result after,
      Channel.Makes (commitOrUndo d) (commitOrUndo d.recorded) conn made result after ∧
      Settling d config conn made result after := by
  cases settled : ending d.commit conn with
  | mk answer middle =>
      have tried : Channel.Makes (Channel.attempt d.commit) (Channel.attempt d.recorded.commit) conn
          [⟨.commit, answer.map fun () => 0⟩] (.ok answer) middle :=
        Channel.attempt_makes .commit (fun _ => 0) settled
      cases answer with
      | ok => exact ⟨_, _, _, tried.bind (SqlBind.Makes.pure () middle), .committed mode settled⟩
      | error e =>
          exact ⟨_, _, _, tried.bind ((Channel.rollbackAfter_makes d e middle).bind
            (SqlBind.Makes.throw _ _)), .uncommitted mode settled rfl⟩

private theorem commitMerge_makes (s : Session σ) :
    ∃ made result after, Session.Makes commitMerge commitMerge s made result after ∧
      s.Continues after ∧
      Settling s.driver s.config.executor s.channel.conn made result after.channel.conn := by
  have chosen : ∃ made result after, Session.Makes
      (if s.config.executor.commitChunks then Session.onChannel commitOrUndo else pure ())
      (if s.config.executor.commitChunks then Session.onChannel commitOrUndo else pure ())
      s made result after ∧ s.Continues after ∧
      Settling s.driver s.config.executor s.channel.conn made result after.channel.conn := by
    cases mode : s.config.executor.commitChunks with
    | false => exact ⟨_, _, _, SqlBind.Makes.pure () s, .refl s, .left mode⟩
    | true =>
        obtain ⟨made, result, conn, makes, settling⟩ :=
          commitOrUndo_makes (d := s.driver) mode s.channel.conn
        exact ⟨made, result, s.onConn conn, Session.Makes.onChannel makes,
          Session.continues_onConn s conn, settling⟩
  obtain ⟨made, result, after, makes, settles⟩ := chosen
  have read := Session.Makes.configured (fun _ config =>
    if config.executor.commitChunks then Session.onChannel commitOrUndo else pure ()) makes
  exact ⟨made, result, after, read, settles⟩

/-- The end of a merge whose statements were sent. -/
def finishMerge (text : String) (deleted inserted : Nat) : SessionAction σ MergeOutcome := do
  commitMerge
  Session.onChannel fun _ => Channel.emit (.merged text deleted inserted)
  return ⟨deleted, inserted⟩

private theorem finishMerge_makes (s : Session σ) (text : String) (deleted inserted : Nat) :
    ∃ made result after,
      Session.Makes (finishMerge text deleted inserted) (finishMerge text deleted inserted) s made
        (result.map fun () => ⟨deleted, inserted⟩) after ∧
      s.Continues after ∧
      Settling s.driver s.config.executor s.channel.conn made result after.channel.conn := by
  obtain ⟨made, result, after, commits, continues, settling⟩ := commitMerge_makes s
  cases result with
  | error e => exact ⟨made, .error e, after, commits.bind_error, continues, settling⟩
  | ok =>
      have tells : Session.Makes
          (Session.onChannel fun _ => Channel.emit (.merged text deleted inserted))
          (Session.onChannel fun _ => Channel.emit (.merged text deleted inserted)) after []
          (.ok ()) after :=
        Session.Makes.onChannel (Channel.emit_makes _ after.channel.conn)
      have finishes := commits.andThen
        (tells.andThen (SqlBind.Makes.pure (⟨deleted, inserted⟩ : MergeOutcome) after))
      rw [List.append_nil, List.append_nil] at finishes
      exact ⟨made, .ok (), after, finishes, continues, settling⟩

def sendMerge (deleteText : String) (deleteRows : List Row) (insertText : String)
    (insertRows : List Row) (text : String) : SessionAction σ MergeOutcome := do
  let deleted ← Session.writeManyAtomic deleteText (.positional deleteRows)
  let inserted ← Session.writeManyAtomic insertText (.positional insertRows)
  finishMerge text deleted inserted

/-- Sending a merge deletes, inserts and commits, each only after what comes before succeeded. -/
theorem sendMerge_makes (sound : s.Sound) (plan : MergePlan) {deleteText insertText : String}
    (deletion : compile deleteText s.style = .ok plan.deletion)
    (deleteRows : plan.deletion.bindBatch (.positional plan.deleteRows) = .ok plan.deleteRows)
    (someDeletes : plan.deleteRows ≠ [])
    (insertion : compile insertText s.style = .ok plan.insertion)
    (insertRows : plan.insertion.bindBatch (.positional plan.insertRows) = .ok plan.insertRows)
    (someInserts : plan.insertRows ≠ []) (text : String) :
    ∃ made result after,
      Session.Makes (sendMerge deleteText plan.deleteRows insertText plan.insertRows text)
        (sendMerge deleteText plan.deleteRows insertText plan.insertRows text) s made result
        after ∧
      s.Continues after ∧
      Sending s.driver s.config.executor plan s.channel.conn made result after.channel.conn := by
  obtain ⟨made, result, middle, removes, continues, deletes⟩ :=
    Session.writeManyAtomic_makes sound deletion deleteRows someDeletes
  cases result with
  | error e => exact ⟨made, .error e, middle, removes.bind_error, continues, .undeleted deletes⟩
  | ok deleted =>
      -- The deletes may have changed the store of compiled statements, not what compiles.
      rw [← continues.style] at insertion
      obtain ⟨later, result, last, adds, goesOn, inserts⟩ :=
        Session.writeManyAtomic_makes (continues.sound sound) insertion insertRows someInserts
      rw [continues.driver, continues.config] at inserts
      have continues := continues.trans goesOn
      cases result with
      | error e =>
          exact ⟨made ++ later, .error e, last, removes.bind adds.bind_error, continues,
            .uninserted deletes inserts⟩
      | ok inserted =>
          obtain ⟨ends, result, after, finishes, goesOn, settles⟩ :=
            finishMerge_makes last text deleted inserted
          rw [continues.driver, continues.config] at settles
          exact ⟨made ++ (later ++ ends), _, after, removes.bind (adds.bind finishes),
            continues.trans goesOn, .sent deletes inserts settles⟩

/-- A merge does what `Merging` says, whatever its records and its driver. -/
theorem merge_makes (sound : s.Sound) (named : Unmarked t.name.chars)
    (records : List KeyedRecord) (unique : List String) :
    ∃ made result after,
      Session.Makes (t.merge records unique) (t.merge records unique) s made result after ∧
      s.Continues after ∧
      Merging s.driver s.config.executor t s.style unique s.channel.conn records made result
        after.channel.conn := by
  have stops : ∀ e : DbError, e.appliedRows = none → s.Continues s ∧
      Merging s.driver s.config.executor t s.style unique s.channel.conn records [] (.error e)
        s.channel.conn :=
    fun e quiet => ⟨.refl s, .refused quiet⟩
  unfold merge
  apply Session.Makes.exists_refuse (stops _ rfl)
  cases records with
  | nil => exact ⟨_, _, _, SqlBind.Makes.pure _ s, .refl s, .empty⟩
  | cons first rest =>
      have filled : first :: rest ≠ [] := List.cons_ne_nil first rest
      apply Session.Makes.exists_refuse (stops _ rfl)
      apply Session.Makes.exists_check fun e fails => stops e (quiet_checkUnique _ _ e fails)
      intro _ _
      apply Session.Makes.exists_check fun e fails => stops e (quiet_columns _ e fails)
      intro conditioned readUnique
      apply Session.Makes.exists_check fun e fails => stops e (quiet_columns _ e fails)
      intro names readNames
      apply Session.Makes.exists_check fun e fails => stops e (quiet_project _ _ e fails)
      intro deleteRows projected
      apply Session.Makes.exists_check fun e fails => stops e (quiet_project _ _ e fails)
      intro insertRows collected
      let plan : MergePlan :=
        ⟨Sql.statementOf s.style (Sql.deleteTokens t.name conditioned), deleteRows,
          Sql.statementOf s.style (Sql.insertTokens t.name names), insertRows⟩
      have deletion : compile (Sql.deleteText t.name conditioned) s.style = .ok plan.deletion :=
        Sql.compile_deleteText named (unmarked_columns readUnique) s.style
      have insertion : compile (Sql.insertText t.name names) s.style = .ok plan.insertion :=
        Sql.compile_insertText named (unmarked_columns readNames) s.style
      have fits : plan.Fits t first rest unique s.style :=
        { deletion := ⟨conditioned, readUnique, deletion⟩
          deleteRows := projected
          insertion := ⟨names, readNames, insertion⟩
          insertRows := collected }
      have bindDeletes : plan.deletion.bindBatch (.positional deleteRows) = .ok deleteRows :=
        Statement.bindBatch_positional (Sql.distinct_deleteTokens _ _ _) deleteRows
      have bindInserts : plan.insertion.bindBatch (.positional insertRows) = .ok insertRows :=
        Statement.bindBatch_positional (Sql.distinct_insertTokens _ _ _) insertRows
      obtain ⟨made, result, after, makes, continues, sending⟩ :=
        sendMerge_makes sound plan deletion bindDeletes (project_ne_nil projected filled)
          insertion bindInserts (project_ne_nil collected filled) t.name.text
      exact ⟨made, result, after, makes, continues, .sent fits sending⟩

end Makes

end Table

/-! ### What is applied -/

namespace Execution

/-- Calls that execute `sql` for all of `rows`, in order and in chunks of at most `chunkSize`, and
affect `affected` rows together. -/
def Carried (sql : String) (chunkSize : Nat) (rows : List Row) (affected : Nat)
    (calls : List Exchange) : Prop :=
  ∃ chunks : List (List Row × Nat),
    calls = chunks.map (fun chunk => ⟨.many sql chunk.1, .ok chunk.2⟩) ∧
    chunks.flatMap Prod.fst = rows ∧
    (∀ chunk ∈ chunks, 0 < chunk.1.length ∧ chunk.1.length ≤ chunkSize) ∧
    (chunks.map Prod.snd).sum = affected

/-- How a failure inside the open transaction ends: the transaction is rolled back right after the
call that failed, and nothing of it is applied. -/
structure Reverted (counters : Counters σ) (conn : σ) (made : List Exchange) (e : DbError)
    (after : σ) : Prop where
  calls : ∃ earlier failed cause,
    made = earlier ++ [⟨failed, .error cause⟩, ⟨.rollback, .ok 0⟩] ∧
    (e = cause ∨ ∃ chunk, e = .interrupted none chunk 0 cause)
  committed : counters.committed after = counters.committed conn
  pending : counters.pending after = 0

variable {d : Driver σ} {counters : Counters σ} {sql : String} {chunkSize start applied : Nat}
  {rows : List Row} {conn middle after : σ} {made : List Exchange}

/-- Chunks that were all sent carry all rows, in order. -/
theorem Sent.carried {result : Except DbError Nat} (positive : 0 < chunkSize)
    (sent : Sent d sql chunkSize start applied rows conn made result after) {total : Nat}
    (succeeds : result = .ok total) :
    ∃ affected, total = applied + affected ∧ Carried sql chunkSize rows affected made := by
  induction sent with
  | done start applied conn =>
      cases succeeds
      exact ⟨0, rfl, [], rfl, rfl, nofun, rfl⟩
  | @sent start applied count rows conn middle after later result nonempty executed rest
      inductionHypothesis =>
      obtain ⟨affected, sum, chunks, calls, whole, sizes, counted⟩ := inductionHypothesis succeeds
      refine ⟨count + affected, by omega, (rows.take chunkSize, count) :: chunks, ?_, ?_, ?_, ?_⟩
      · rw [calls, List.map_cons]
      · rw [List.flatMap_cons, whole, List.take_append_drop]
      · have size := List.length_pos_iff.mpr nonempty
        apply List.forall_mem_cons.mpr ⟨?_, sizes⟩
        simp only [List.length_take]
        omega
      · rw [List.map_cons, List.sum_cons, counted]
  | failed nonempty executed undone => cases succeeds

theorem Reverted.prepend {earlier : List Exchange} {e : DbError}
    (reverted : Reverted counters middle made e after)
    (same : counters.committed middle = counters.committed conn) :
    Reverted counters conn (earlier ++ made) e after := by
  obtain ⟨before, failed, cause, rfl, wraps⟩ := reverted.calls
  exact ⟨⟨earlier ++ before, failed, cause, (List.append_assoc _ _ _).symm, wraps⟩,
    reverted.committed.trans same, reverted.pending⟩

/-- A rollback that was not lost reverts what the transaction held. -/
theorem Transactional.reverted (transactional : Transactional d counters) {failed : Call}
    {cause e : DbError} {rollback : Except DbError Unit}
    (kept : ¬ RollbackLost [⟨failed, .error cause⟩, rollbackExchange rollback])
    (undone : ending d.rollback middle = (rollback, after))
    (same : counters.committed middle = counters.committed conn)
    (wraps : e = cause ∨ ∃ chunk, e = .interrupted none chunk 0 cause) :
    Reverted counters conn [⟨failed, .error cause⟩, rollbackExchange rollback]
      (afterRollback e rollback) after := by
  cases rollback with
  | error lost => exact absurd ⟨lost, by simp [rollbackExchange, Except.map]⟩ kept
  | ok =>
      have back := transactional.rollback_ok (of_ending_ok undone)
      exact ⟨⟨[], failed, cause, rfl, wraps⟩, back.2.trans same, back.1⟩

/-- Chunks that succeed are pending, and nothing becomes durable. -/
theorem Transactional.sent_ok (transactional : Transactional d counters)
    {result : Except DbError Nat}
    (sent : Sent d sql chunkSize start applied rows conn made result after) {total : Nat}
    (succeeds : result = .ok total) :
    counters.committed after = counters.committed conn ∧
      counters.pending after + applied = counters.pending conn + total := by
  induction sent with
  | done start applied conn =>
      cases succeeds
      exact ⟨rfl, rfl⟩
  | sent nonempty executed rest inductionHypothesis =>
      have counted := (transactional.many _ _).ok (of_ending_ok executed)
      have later := inductionHypothesis succeeds
      exact ⟨later.1.trans counted.2, by omega⟩
  | failed nonempty executed undone => cases succeeds

/-- A chunk that fails takes the open transaction with it. -/
theorem Transactional.sent_error (transactional : Transactional d counters)
    {result : Except DbError Nat}
    (sent : Sent d sql chunkSize start applied rows conn made result after) {e : DbError}
    (fails : result = .error e) (kept : ¬ RollbackLost made) :
    Reverted counters conn made e after := by
  induction sent with
  | done start applied conn => cases fails
  | @sent start applied count rows conn middle after later result nonempty executed rest
      inductionHypothesis =>
      -- The chunk is only pending, so the rollback at the end takes it back as well.
      have counted := (transactional.many _ _).ok (of_ending_ok executed)
      have laterKept : ¬ RollbackLost later := by
        rintro ⟨lost, member⟩
        exact kept ⟨lost, List.mem_cons_of_mem _ member⟩
      show Reverted counters conn ([_] ++ later) e after
      exact (inductionHypothesis fails laterKept).prepend counted.2
  | @failed start applied rows conn middle after cause rollback nonempty executed undone =>
      cases fails
      have same := (transactional.many _ _).error (of_ending_error executed)
      exact transactional.reverted kept undone same (Or.inr ⟨_, rfl⟩)

end Execution

namespace Table

open Execution (Carried Reverted RollbackLost rollbackLost_append)

variable {d : Driver σ} {counters : Counters σ} {config : ExecutorConfig} {plan : MergePlan}
  {conn after : σ} {made : List Exchange}

private theorem sending_error (transactional : Transactional d counters)
    {result : Except DbError MergeOutcome} (sending : Sending d config plan conn made result after)
    {e : DbError} (fails : result = .error e) (kept : ¬ RollbackLost made) :
    Reverted counters conn made e after := by
  cases sending with
  | undeleted deletes =>
      cases fails
      exact transactional.sent_error deletes rfl kept
  | uninserted deletes inserts =>
      cases fails
      rw [rollbackLost_append, not_or] at kept
      have unsettled := (transactional.sent_ok deletes rfl).1
      exact (transactional.sent_error inserts rfl kept.2).prepend unsettled
  | sent deletes inserts settles =>
      rw [rollbackLost_append, rollbackLost_append, not_or, not_or] at kept
      cases settles with
      | left mode => cases fails
      | committed mode settled => cases fails
      | uncommitted mode refused undone =>
          cases fails
          have same := transactional.commit_error (of_ending_error refused)
          have reverted := transactional.reverted kept.2.2 undone same (Or.inl rfl)
          exact (reverted.prepend (transactional.sent_ok inserts rfl).1).prepend
            (transactional.sent_ok deletes rfl).1

private theorem sending_ok (positive : 0 < config.chunkSize) {result : Except DbError MergeOutcome}
    (sending : Sending d config plan conn made result after) {outcome : MergeOutcome}
    (succeeds : result = .ok outcome) :
    ∃ deletes inserts,
      made = deletes ++ inserts ++ (if config.commitChunks then [⟨.commit, .ok 0⟩] else []) ∧
      Carried plan.deletion.sql config.chunkSize plan.deleteRows outcome.deleted deletes ∧
      Carried plan.insertion.sql config.chunkSize plan.insertRows outcome.inserted inserts := by
  cases sending with
  | undeleted deletes => cases succeeds
  | uninserted deletes inserts => cases succeeds
  | @sent removes adds ends deleted inserted middle last after result deletes inserts settles =>
      obtain ⟨removed, sum, carriedDeletes⟩ := deletes.carried positive rfl
      obtain ⟨added, total, carriedInserts⟩ := inserts.carried positive rfl
      rw [Nat.zero_add] at sum total
      subst sum total
      refine ⟨removes, adds, ?_⟩
      cases settles with
      | left mode =>
          cases succeeds
          rw [mode, ← List.append_assoc]
          exact ⟨rfl, carriedDeletes, carriedInserts⟩
      | committed mode settled =>
          cases succeeds
          rw [mode, ← List.append_assoc]
          exact ⟨rfl, carriedDeletes, carriedInserts⟩
      | uncommitted mode refused undone => cases succeeds

section Merging

variable {t : Table} {style : ParamStyle} {unique : List String} {records : List KeyedRecord}
  {result : Except DbError MergeOutcome}

private theorem merging_error (transactional : Transactional d counters)
    (merging : Merging d config t style unique conn records made result after) {e : DbError}
    (fails : result = .error e) (kept : ¬ RollbackLost made) :
    made = [] ∧ after = conn ∨ Reverted counters conn made e after := by
  cases merging with
  | refused quiet => exact Or.inl ⟨rfl, rfl⟩
  | empty => cases fails
  | sent fits sending => exact Or.inr (sending_error transactional sending fails kept)

private theorem merging_ok (positive : 0 < config.chunkSize) {first : KeyedRecord}
    {rest : List KeyedRecord}
    (merging : Merging d config t style unique conn (first :: rest) made result after)
    {outcome : MergeOutcome} (succeeds : result = .ok outcome) :
    ∃ plan deletes inserts, MergePlan.Fits plan t first rest unique style ∧
      made = deletes ++ inserts ++ (if config.commitChunks then [⟨.commit, .ok 0⟩] else []) ∧
      Carried plan.deletion.sql config.chunkSize plan.deleteRows outcome.deleted deletes ∧
      Carried plan.insertion.sql config.chunkSize plan.insertRows outcome.inserted inserts := by
  cases merging with
  | refused quiet => cases succeeds
  | sent fits sending =>
      obtain ⟨deletes, inserts, carried⟩ := sending_ok positive sending succeeds
      exact ⟨_, deletes, inserts, fits, carried⟩

end Merging

/-- A merge is all or nothing. If it fails, it made no call, or the call that failed was followed by
a rollback as the last one, and nothing of the merge is applied; so behind the first call only the
driver fails. If it succeeds on some records, it deleted by the projected unique columns, inserted
all records, and committed once unless commits are left to the caller. -/
theorem merge_all_or_nothing {s : Session σ} (transactional : Transactional s.driver counters)
    (sound : s.Sound) (clean : counters.pending s.channel.conn = 0) {text : String} {t : Table}
    (named : Table.named text = .ok t) (records : List KeyedRecord) (unique : List String)
    (kept : ¬ RollbackLost (Session.calls (t.merge records unique) s)) :
    (∀ e, (ending (t.merge records unique) s).1 = .error e →
      (Session.calls (t.merge records unique) s = [] ∨ ∃ earlier failed cause,
        Session.calls (t.merge records unique) s =
          earlier ++ [⟨failed, .error cause⟩, ⟨.rollback, .ok 0⟩] ∧
        (e = cause ∨ ∃ chunk, e = .interrupted none chunk 0 cause)) ∧
      counters.committed (ending (t.merge records unique) s).2.channel.conn =
        counters.committed s.channel.conn ∧
      counters.pending (ending (t.merge records unique) s).2.channel.conn = 0) ∧
    (∀ outcome first rest, (ending (t.merge records unique) s).1 = .ok outcome →
      records = first :: rest →
      ∃ plan deletes inserts, MergePlan.Fits plan t first rest unique s.style ∧
        Session.calls (t.merge records unique) s =
          deletes ++ inserts ++
            (if s.config.executor.commitChunks then [⟨.commit, .ok 0⟩] else []) ∧
        Carried plan.deletion.sql s.config.executor.chunkSize plan.deleteRows outcome.deleted
          deletes ∧
        Carried plan.insertion.sql s.config.executor.chunkSize plan.insertRows outcome.inserted
          inserts) ∧
    (∀ columnNames names style, columns columnNames = .ok names →
      ∃ insertion, compile (Sql.insertText t.name names) style = .ok insertion ∧
        ∀ rows, insertion.bindBatch (.positional rows) = .ok rows) := by
  obtain ⟨made, result, after, makes, -, merging⟩ :=
    merge_makes sound (unmarked_named named) records unique
  obtain ⟨told, ended⟩ := makes.ends
  rw [makes.calls_eq] at kept ⊢
  rw [ended]
  refine ⟨?_, ?_, ?_⟩
  · intro e fails
    rcases merging_error transactional merging fails kept with ⟨nothing, unchanged⟩ | reverted
    · refine ⟨Or.inl nothing, congrArg counters.committed unchanged, ?_⟩
      exact (congrArg counters.pending unchanged).trans clean
    · exact ⟨Or.inr reverted.calls, reverted.committed, reverted.pending⟩
  · rintro outcome first rest succeeds rfl
    exact merging_ok sound.positive merging succeeds
  · intro columnNames names style read
    exact ⟨_, Sql.compile_insertText (unmarked_named named) (unmarked_columns read) style,
      Statement.bindBatch_positional (Sql.distinct_insertTokens style t.name names)⟩

/-- The deletes succeed, the second of the inserts is rejected, and nothing is left of either. -/
theorem merge_all_or_nothing_scripted :
    let d := Scripted.driver .numeric Row.describe
    let config : SessionConfig := { executor := { chunkSize := 1 }, compileCache := 1 }
    let start := ScriptedState.start { bad := [2] }
    let s : Session ScriptedState :=
      ⟨d, config, Compiler.withCache .numeric config.compileCache, ⟨start, #[]⟩⟩
    let t : Table := ⟨⟨[.plain ['t']]⟩⟩
    let record : Int64 → KeyedRecord := fun i => .ofList [("a", .int i), ("b", .int (i + 10))]
    let records := [record 1, record 2]
    Transactional s.driver Execution.scriptedCounters ∧ Session.withConfig d start config = .ok s ∧
      s.Sound ∧ Execution.scriptedCounters.pending s.channel.conn = 0 ∧
      Table.named "t" = .ok t ∧ ¬ RollbackLost (Session.calls (t.merge records ["b"]) s) ∧
      (Session.calls (t.merge records ["b"]) s).map (fun exchange =>
          (exchange.call.executes, exchange.answer.isOk)) =
        [(true, true), (true, true), (true, true), (true, false), (false, true)] ∧
      Execution.scriptedCounters.committed (ending (t.merge records ["b"]) s).2.channel.conn =
        Execution.scriptedCounters.committed s.channel.conn ∧
      Execution.scriptedCounters.pending (ending (t.merge records ["b"]) s).2.channel.conn = 0 := by
  intro d config start s t record records
  have transactional : Transactional s.driver Execution.scriptedCounters :=
    Execution.scripted_transactional .numeric Row.describe
  have opened : Session.withConfig d start config = .ok s := rfl
  have sound := Session.sound_withConfig opened
  have named : Table.named "t" = .ok t := rfl
  have calls : (Session.calls (t.merge records ["b"]) s).map (fun exchange =>
      (exchange.call.executes, exchange.answer.isOk)) =
      [(true, true), (true, true), (true, true), (true, false), (false, true)] := by
    decide +kernel
  have kept : ¬ RollbackLost (Session.calls (t.merge records ["b"]) s) := by
    rintro ⟨lost, member⟩
    have listed := List.mem_map_of_mem (f := fun exchange : Exchange =>
      (exchange.call.executes, exchange.answer.isOk)) member
    rw [calls] at listed
    simp [Call.executes, Except.isOk, Except.toBool] at listed
  have failed : (ending (t.merge records ["b"]) s).1.isOk = false := by decide +kernel
  obtain ⟨undone, -⟩ :=
    merge_all_or_nothing transactional sound rfl named records ["b"] kept
  cases result : (ending (t.merge records ["b"]) s).1 with
  | ok outcome =>
      rw [result] at failed
      cases failed
  | error e =>
      obtain ⟨-, committed, pending⟩ := undone e result
      exact ⟨transactional, opened, sound, rfl, named, kept, calls, committed, pending⟩

end Table

end SqlBind
