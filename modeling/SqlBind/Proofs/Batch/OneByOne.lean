import SqlBind.Proofs.Batch.Accounting
import SqlBind.Proofs.Batch.Coverage

/-!
Owns: batches whose records fare each on its own, whatever they are sent together with. The driver
accepts or rejects every record once and for all; several records at once it may refuse for other
reasons too.

Main statement: a committed batch ends as if its records were executed and committed one at a time,
wherever its chunks began and however often they were made smaller
(`chunked_batch_agrees_with_single_records`).
-/

set_option autoImplicit false

namespace SqlBind.Execution

variable {σ : Type}

/-! ### Records one at a time -/

/-- The rows that records affect, executed one at a time. -/
def affected (fate : Row → Except DbError Nat) : List Row → Nat
  | [] => 0
  | row :: rest =>
      match fate row with
      | .ok count => count + affected fate rest
      | .error _ => affected fate rest

/-- The rejected ones among the records from `index` on. -/
def rejections (fate : Row → Except DbError Nat) : Nat → List Row → List RecordFailure
  | _, [] => []
  | index, row :: rest =>
      match fate row with
      | .ok _ => rejections fate (index + 1) rest
      | .error e => ⟨index, Row.describe row, e⟩ :: rejections fate (index + 1) rest

/-- How a batch ends, and how many rows it makes durable, when its records are executed and
committed one at a time. An error may name any chunk with its record. -/
inductive OneByOne (config : ExecutorConfig) (fate : Row → Except DbError Nat)
    (batch : List Row) : Except DbError Nat → Nat → Prop where
  | complete (clean : rejections fate 0 batch = []) :
      OneByOne config fate batch (.ok (affected fate batch)) (affected fate batch)
  | isolated (policy : config.failurePolicy = .isolate) (rejected : rejections fate 0 batch ≠ []) :
      OneByOne config fate batch
        (.error (.partialBatch (affected fate batch) (rejections fate 0 batch)))
        (affected fate batch)
  | aborted {first : RecordFailure} {others : List RecordFailure} {chunk : ChunkRange}
      (policy : config.failurePolicy = .abort)
      (rejected : rejections fate 0 batch = first :: others)
      (placed : WellPlaced config.chunkSize batch.length (some first.index) chunk) :
      OneByOne config fate batch
        (.error (.execution first.index chunk (affected fate (batch.take first.index))
          first.record first.error))
        (affected fate (batch.take first.index))

section Fates

variable {fate : Row → Except DbError Nat}

private theorem affected_append (left right : List Row) :
    affected fate (left ++ right) = affected fate left + affected fate right := by
  induction left with
  | nil => exact (Nat.zero_add _).symm
  | cons row rest inductionHypothesis =>
      simp only [List.cons_append, affected]
      cases fate row with
      | ok count =>
          show count + affected fate (rest ++ right) =
            count + affected fate rest + affected fate right
          rw [inductionHypothesis]
          omega
      | error e => exact inductionHypothesis

/-- The rejected records of two parts are those of each, the second counted on from the first. -/
theorem rejections_append (index : Nat) (left right : List Row) :
    rejections fate index (left ++ right) =
      rejections fate index left ++ rejections fate (index + left.length) right := by
  induction left generalizing index with
  | nil => rfl
  | cons row rest inductionHypothesis =>
      have later := inductionHypothesis (index + 1)
      have place : index + 1 + rest.length = index + (row :: rest).length := by
        rw [List.length_cons]
        omega
      rw [place] at later
      simp only [List.cons_append, rejections]
      cases fate row with
      | ok count => exact later
      | error e => exact congrArg (⟨index, Row.describe row, e⟩ :: ·) later

theorem rejections_of_accepted {rows : List Row}
    (accepted : ∀ row ∈ rows, ∃ count, fate row = .ok count) (index : Nat) :
    rejections fate index rows = [] := by
  induction rows generalizing index with
  | nil => rfl
  | cons row rest inductionHypothesis =>
      obtain ⟨count, fine⟩ := accepted row List.mem_cons_self
      unfold rejections
      rw [fine]
      exact inductionHypothesis (fun other member => accepted other (.tail row member)) (index + 1)

/-- The first rejected record is the first one listed. -/
theorem rejections_first {before : List Row} (none : rejections fate 0 before = []) {row : Row}
    {e : DbError} (own : fate row = .error e) (after : List Row) :
    rejections fate 0 (before ++ row :: after) =
      ⟨before.length, Row.describe row, e⟩ :: rejections fate (before.length + 1) after := by
  rw [rejections_append, none, Nat.zero_add, List.nil_append]
  simp only [rejections, own]

end Fates

/-! ### Drivers that judge each record on its own -/

/-- The action leads from states with the property to such states. -/
def Keeps {τ α : Type} (steady : τ → Prop) (action : EStateM DbError τ α) : Prop :=
  ∀ {state}, steady state → steady (ending action state).2

/-- On steady connections a row meets its own fate whenever it is executed, and a rejection comes
from the database. Several rows at once are executed only if each is accepted; they may be refused
for any reason, such as their number. Commit and rollback work. -/
structure RowWise (d : Driver σ) (sql : String) (fate : Row → Except DbError Nat)
    (steady : σ → Prop) : Prop where
  rejection : ∀ {row e}, fate row = .error e → e.isDatabaseError = true
  one : ∀ row {conn}, steady conn → (ending (d.executeOne sql row) conn).1 = fate row
  many_ok : ∀ {rows conn count}, steady conn →
    (ending (d.executeMany sql rows) conn).1 = .ok count →
    (∀ row ∈ rows, ∃ count, fate row = .ok count) ∧ count = affected fate rows
  many_error : ∀ {rows conn e}, steady conn →
    (ending (d.executeMany sql rows) conn).1 = .error e → e.isDatabaseError = true
  commit : ∀ {conn}, steady conn → (ending d.commit conn).1 = .ok ()
  rollback : ∀ {conn}, steady conn → (ending d.rollback conn).1 = .ok ()
  keeps_one : ∀ row, Keeps steady (d.executeOne sql row)
  keeps_many : ∀ rows, Keeps steady (d.executeMany sql rows)
  keeps_commit : Keeps steady d.commit
  keeps_rollback : Keeps steady d.rollback

/-- The records that the next trial of a task carries. -/
def Task.sent : Task → List Row
  | chunks stretch => stretch.chunk
  | records _ _ row _ => [row]

/-- What a trial of a task can be when every record meets its own fate. -/
inductive Fair (fate : Row → Except DbError Nat) : Task → Trial → Prop where
  | accepted (task : Task) (each : ∀ row ∈ task.sent, ∃ count, fate row = .ok count) :
      Fair fate task (.applied (affected fate task.sent))
  | refused (stretch : Stretch) {e : DbError} (retryable : e.isRetryable = true) :
      Fair fate (.chunks stretch) (.failed e (.ok ()))
  | rejected (range : ChunkRange) (index : Nat) (row : Row) (rest : List Row) (e : DbError)
      (retryable : e.isRetryable = true) (own : fate row = .error e) :
      Fair fate (.records range index row rest) (.failed e (.ok ()))

section Drivers

variable {d : Driver σ} {sql : String} {fate : Row → Except DbError Nat} {steady : σ → Prop}
  {config : ExecutorConfig} {task : Task} {trial : Trial} {conn after : σ}

theorem RowWise.keeps_execution (rowWise : RowWise d sql fate steady) (task : Task) :
    Keeps steady (task.execution d sql) := by
  cases task with
  | chunks stretch => exact rowWise.keeps_many stretch.chunk
  | records range index row rest => exact rowWise.keeps_one row

/-- An execution that succeeds carried accepted records only and counts the rows of each. -/
theorem RowWise.executed (rowWise : RowWise d sql fate steady) (begins : steady conn)
    {count : Nat} (executed : ending (task.execution d sql) conn = (.ok count, after)) :
    (∀ row ∈ task.sent, ∃ count, fate row = .ok count) ∧ count = affected fate task.sent := by
  cases task with
  | chunks stretch => exact rowWise.many_ok begins (congrArg Prod.fst executed)
  | records range index row rest =>
      have own : fate row = .ok count := by
        rw [← rowWise.one row begins]
        exact congrArg Prod.fst executed
      constructor
      · intro other member
        rw [List.mem_singleton.mp member]
        exact ⟨count, own⟩
      · simp only [Task.sent, affected, own]
        rfl

private theorem RowWise.fair_failed (rowWise : RowWise d sql fate steady) (begins : steady conn)
    {e : DbError} (executed : ending (task.execution d sql) conn = (.error e, after)) :
    Fair fate task (.failed e (.ok ())) := by
  cases task with
  | chunks stretch =>
      exact .refused stretch (rowWise.many_error begins (congrArg Prod.fst executed))
  | records range index row rest =>
      have own : fate row = .error e := by
        rw [← rowWise.one row begins]
        exact congrArg Prod.fst executed
      exact .rejected range index row rest e (rowWise.rejection own) own

/-- A trial is fair and leaves a steady connection. -/
theorem RowWise.fair_trial (rowWise : RowWise d sql fate steady) (begins : steady conn)
    (made : Trial.Made d config (task.execution d sql) conn trial after) :
    Fair fate task trial ∧ steady after := by
  have kept := rowWise.keeps_execution task begins
  cases made with
  | pending mode executed =>
      rw [executed] at kept
      obtain ⟨each, rfl⟩ := rowWise.executed begins executed
      exact ⟨.accepted task each, kept⟩
  | committed mode executed settled =>
      rw [executed] at kept
      have durable := rowWise.keeps_commit kept
      rw [settled] at durable
      obtain ⟨each, rfl⟩ := rowWise.executed begins executed
      exact ⟨.accepted task each, durable⟩
  | uncommitted mode executed refused undone =>
      rw [executed] at kept
      have works := rowWise.commit kept
      rw [refused] at works
      cases works
  | failed executed undone =>
      rw [executed] at kept
      have works := rowWise.rollback kept
      have back := rowWise.keeps_rollback kept
      rw [undone] at works back
      cases works
      exact ⟨rowWise.fair_failed begins executed, back⟩

end Drivers

/-! ### Progress through the batch -/

/-- The failures that a batch lists are the rejected ones among the records before `position`. A
batch that stops at the first of them lists none. -/
structure Listed (config : ExecutorConfig) (fate : Row → Except DbError Nat) (batch : List Row)
    (position : Nat) (progress : Progress) : Prop where
  failures : progress.failures.toList = rejections fate 0 (batch.take position)
  unbroken : config.failurePolicy = .abort → progress.failures = #[]

/-- The progress of a batch that has settled the records before `position`. -/
structure Reached (config : ExecutorConfig) (fate : Row → Except DbError Nat) (batch : List Row)
    (position : Nat) (progress : Progress) : Prop where
  ledger : progress.ledger = ⟨affected fate (batch.take position), 0⟩
  failures : progress.failures.toList = rejections fate 0 (batch.take position)
  unbroken : config.failurePolicy = .abort → progress.failures = #[]

theorem Reached.listed {config : ExecutorConfig} {fate : Row → Except DbError Nat}
    {batch : List Row} {position : Nat} {progress : Progress}
    (reached : Reached config fate batch position progress) :
    Listed config fate batch position progress :=
  ⟨reached.failures, reached.unbroken⟩

/-- Failures are listed under isolation only. -/
theorem Listed.isolates {config : ExecutorConfig} {fate : Row → Except DbError Nat}
    {batch : List Row} {position : Nat} {progress : Progress}
    (listed : Listed config fate batch position progress) (some : progress.failures ≠ #[]) :
    config.failurePolicy = .isolate := by
  cases policy : config.failurePolicy with
  | abort => exact absurd (listed.unbroken policy) some
  | isolate => rfl

private theorem Ledger.discard_settled (committed : Nat) :
    Ledger.discard ⟨committed, 0⟩ = ⟨committed, 0⟩ := rfl

private theorem Ledger.commit_add (committed count : Nat) :
    (Ledger.add ⟨committed, 0⟩ count).commit = ⟨committed + count, 0⟩ := by
  simp only [Ledger.add, Ledger.commit, Nat.zero_add]

theorem Task.sent_prefix {batch : List Row} {task : Task}
    (holds : task.rows <+: batch.drop task.start) : task.sent <+: batch.drop task.start := by
  cases task with
  | chunks stretch => exact Stretch.chunk_prefix holds
  | records range index row rest => exact (List.prefix_append [row] rest).trans holds

theorem Task.length_indices (task : Task) : task.place.indices.length = task.sent.length := by
  cases task with
  | chunks stretch =>
      simp only [Task.place, Place.indices, Stretch.range, Task.sent, List.length_range']
      omega
  | records range index row rest => rfl

theorem Task.length_rows_pos (task : Task) : 0 < task.rows.length := by
  cases task with
  | chunks stretch => exact List.length_pos_iff.mpr stretch.records_ne
  | records range index row rest => exact Nat.succ_pos _

theorem take_add_of_prefix {batch part : List Row} {position : Nat}
    (next : part <+: batch.drop position) :
    batch.take (position + part.length) = batch.take position ++ part := by
  rw [List.take_add, ← List.prefix_iff_eq_take.mp next]

section Steps

variable {fate : Row → Except DbError Nat} {config : ExecutorConfig} {batch : List Row}
  {task : Task} {trial : Trial} {progress next : Progress} {tasks : List Task}

private theorem Task.start_lt (holds : task.rows <+: batch.drop task.start) :
    task.start < batch.length := by
  have bound := holds.length_le
  have nonempty := task.length_rows_pos
  rw [List.length_drop] at bound
  omega

private theorem rejections_next (fate : Row → Except DbError Nat)
    (holds : task.rows <+: batch.drop task.start) (part : List Row) :
    rejections fate 0 (batch.take task.start ++ part) =
      rejections fate 0 (batch.take task.start) ++ rejections fate task.start part := by
  have inside := Task.start_lt holds
  have place : 0 + (batch.take task.start).length = task.start := by
    rw [List.length_take]
    omega
  rw [rejections_append, place]

/-- A fair trial lists what it sets aside. -/
theorem Listed.goOn (listed : Listed config fate batch task.start progress) (sql : String)
    (holds : task.rows <+: batch.drop task.start) (fair : Fair fate task trial)
    (goesOn : Task.GoesOn config progress task trial tasks next) :
    Listed config fate batch
      (task.start + ((task.entry sql trial).settled config.failurePolicy).length) next := by
  have taken := take_add_of_prefix (Task.sent_prefix holds)
  cases goesOn with
  | applied task count =>
      rw [JournalEntry.settled_applied, Task.length_indices]
      cases fair with
      | accepted task each =>
          refine ⟨?_, listed.unbroken⟩
          rw [taken, rejections_next fate holds, rejections_of_accepted each, List.append_nil]
          exact listed.failures
  | single stretch retryable small =>
      rw [JournalEntry.settled_chunk_failed]
      exact ⟨listed.failures, listed.unbroken⟩
  | smaller stretch retryable large =>
      rw [JournalEntry.settled_chunk_failed]
      exact ⟨listed.failures, listed.unbroken⟩
  | isolated range index row rest retryable policy =>
      cases fair with
      | rejected range index row rest e retryable own =>
          rw [policy, JournalEntry.settled_isolated sql range index row rest retryable]
          have further : batch.take (index + 1) = batch.take index ++ [row] := taken
          have rejected := rejections_next fate holds [row]
          simp only [rejections, own] at rejected
          constructor
          · show (progress.failures.push _).toList = rejections fate 0 (batch.take (index + 1))
            rw [Array.toList_push, listed.failures, further]
            exact rejected.symm
          · intro aborts
            rw [policy] at aborts
            cases aborts

/-- A fair trial ends a batch only where it aborts, at the first rejected record. -/
theorem Listed.stop (listed : Listed config fate batch task.start progress)
    (fits : task.Fits config.chunkSize) (holds : task.rows <+: batch.drop task.start)
    (fair : Fair fate task trial) {fault : DbError}
    (stops : Task.Stops config progress task trial fault) :
    config.failurePolicy = .abort ∧ ∃ first others chunk,
      rejections fate 0 batch = first :: others ∧ first.index = task.start ∧
      WellPlaced config.chunkSize batch.length (some first.index) chunk ∧
      fault = .execution first.index chunk progress.ledger.committed first.record first.error := by
  cases fair with
  | accepted task each => cases stops
  | refused stretch retryable =>
      cases stops with
      | broken task rollback fatal => simp [retryable] at fatal
  | rejected range index row rest e retryable own =>
      cases stops with
      | broken task rollback fatal => simp [retryable] at fatal
      | aborted range index row rest retryable policy =>
          have placed := (Task.wellPlaced fits holds).1
          have inside := Task.start_lt holds
          have failures := listed.failures
          rw [listed.unbroken policy] at failures
          have none : rejections fate 0 (batch.take index) = [] := failures.symm
          have size : (batch.take index).length = index := List.length_take_of_le inside.le
          obtain ⟨tail, from_here⟩ := holds
          have split : batch.take index ++ row :: (rest ++ tail) = batch := by
            rw [show row :: (rest ++ tail) = batch.drop index from from_here,
              List.take_append_drop]
          have first := rejections_first none own (rest ++ tail)
          rw [split, size] at first
          exact ⟨policy, _, _, range, first, rfl, placed, rfl⟩

/-- A fair trial brings the batch as far as the records that it settles. -/
theorem Reached.goOn (reached : Reached config fate batch task.start progress)
    (commits : config.commitChunks = true) (sql : String)
    (holds : task.rows <+: batch.drop task.start) (fair : Fair fate task trial)
    (goesOn : Task.GoesOn config progress task trial tasks next) :
    Reached config fate batch
      (task.start + ((task.entry sql trial).settled config.failurePolicy).length) next := by
  have taken := take_add_of_prefix (Task.sent_prefix holds)
  obtain ⟨failures, unbroken⟩ := reached.listed.goOn sql holds fair goesOn
  refine ⟨?_, failures, unbroken⟩
  -- The failures are listed; what is left is the ledger, in which nothing was pending.
  have discarded : progress.ledger.discard = ⟨affected fate (batch.take task.start), 0⟩ := by
    rw [reached.ledger]
    exact Ledger.discard_settled _
  cases goesOn with
  | applied task count =>
      rw [JournalEntry.settled_applied, Task.length_indices]
      cases fair with
      | accepted task each =>
          rw [commits, if_pos rfl, reached.ledger, Ledger.commit_add, taken, affected_append]
  | single stretch retryable small =>
      rw [JournalEntry.settled_chunk_failed]
      exact discarded
  | smaller stretch retryable large =>
      rw [JournalEntry.settled_chunk_failed]
      exact discarded
  | isolated range index row rest retryable policy =>
      cases fair with
      | rejected range index row rest e retryable own =>
          rw [policy, JournalEntry.settled_isolated sql range index row rest retryable]
          have further : batch.take (index + 1) = batch.take index ++ [row] := taken
          show progress.ledger.discard = ⟨affected fate (batch.take (index + 1)), 0⟩
          rw [discarded, further, affected_append]
          simp only [affected, own]
          rfl

/-- A fair trial ends a batch only at the first rejected record. -/
theorem Reached.stop (reached : Reached config fate batch task.start progress)
    (fits : task.Fits config.chunkSize) (holds : task.rows <+: batch.drop task.start)
    (fair : Fair fate task trial) {e : DbError}
    (stops : Task.Stops config progress task trial e) :
    OneByOne config fate batch (.error e) progress.ledger.committed := by
  obtain ⟨policy, first, others, chunk, rejected, here, placed, rfl⟩ :=
    reached.listed.stop fits holds fair stops
  rw [reached.ledger, ← here]
  exact .aborted policy rejected placed

end Steps

/-! ### The whole batch -/

section Courses

variable {d : Driver σ} {sql : String} {fate : Row → Except DbError Nat} {steady : σ → Prop}
  {config : ExecutorConfig} {batch : List Row}

private theorem course_one_by_one (rowWise : RowWise d sql fate steady)
    (commits : config.commitChunks = true) (tasks : List Task) (progress : Progress) (conn : σ)
    (begins : steady conn) (position : Nat)
    (tiles : Tiles config.chunkSize batch position batch.length tasks)
    (reached : Reached config fate batch position progress) :
    match (course d config sql tasks progress conn).result with
    | .ok final => Reached config fate batch batch.length final
    | .error e => ∃ durable, OneByOne config fate batch (.error e) durable := by
  -- A trial moves the position by what it settles, and the tasks tile the batch from there on.
  fun_induction course d config sql tasks progress conn generalizing position with
  | case1 progress conn =>
      cases tiles
      exact reached
  | case2 task rest progress conn trial after tried e advanced =>
      obtain ⟨rfl, fits, holds, -⟩ := tiles
      have fair := (rowWise.fair_trial begins (Trial.made tried)).1
      exact ⟨_, reached.stop fits holds fair (Task.stops advanced)⟩
  | case3 task rest progress conn trial after tried tasks next advanced inductionHypothesis =>
      obtain ⟨rfl, fits, holds, tiles⟩ := tiles
      obtain ⟨fair, steady⟩ := rowWise.fair_trial begins (Trial.made tried)
      have goesOn := Task.goesOn advanced
      have further := reached.goOn commits sql holds fair goesOn
      obtain ⟨count, settled, left⟩ := goesOn.settles sql fits holds
      rw [settled, List.length_range'] at further
      exact inductionHypothesis steady (task.start + count) (left.append tiles) further

private theorem Fair.rollback_kept {task : Task} {trial : Trial} (fair : Fair fate task trial)
    (config : ExecutorConfig) (sql : String) :
    ¬ RollbackLost ((task.entry sql trial).exchanges config) := by
  rintro ⟨lost, member⟩
  have other : Call.rollback ≠ task.call sql := by
    cases task <;> exact Call.noConfusion
  cases fair with
  | accepted task each =>
      rcases List.mem_cons.mp member with call | commit
      · exact other (congrArg Exchange.call call)
      · cases commits : config.commitChunks <;> simp [commits] at commit
  | refused stretch retryable =>
      rcases List.mem_cons.mp member with call | rollback
      · exact other (congrArg Exchange.call call)
      · cases List.mem_singleton.mp rollback
  | rejected range index row rest e retryable own =>
      rcases List.mem_cons.mp member with call | rollback
      · exact other (congrArg Exchange.call call)
      · cases List.mem_singleton.mp rollback

private theorem course_rollbacks_kept (rowWise : RowWise d sql fate steady) (tasks : List Task)
    (progress : Progress) (conn : σ) (begins : steady conn) :
    ¬ RollbackLost ((course d config sql tasks progress conn).journal.flatMap
      (JournalEntry.exchanges config)) := by
  fun_induction course d config sql tasks progress conn with
  | case1 progress conn =>
      rintro ⟨lost, member⟩
      cases member
  | case2 task rest progress conn trial after tried e advanced =>
      have fair := (rowWise.fair_trial begins (Trial.made tried)).1
      rw [List.flatMap_singleton]
      exact fair.rollback_kept config sql
  | case3 task rest progress conn trial after tried tasks next advanced inductionHypothesis =>
      obtain ⟨fair, steady⟩ := rowWise.fair_trial begins (Trial.made tried)
      simp only [Course.cons, List.flatMap_cons]
      rw [rollbackLost_append, not_or]
      exact ⟨fair.rollback_kept config sql, inductionHypothesis steady⟩

/-- A batch that has not begun has reached its first record. -/
theorem Reached.start (config : ExecutorConfig) (fate : Row → Except DbError Nat)
    (batch : List Row) : Reached config fate batch 0 Progress.start :=
  ⟨rfl, rfl, fun _ => rfl⟩

/-- The verdict on a batch that has come to its end. -/
theorem Reached.verdict {progress : Progress}
    (reached : Reached config fate batch batch.length progress) :
    OneByOne config fate batch progress.verdict (affected fate batch) := by
  have ledger := reached.ledger
  have failures := reached.failures
  rw [List.take_length] at ledger failures
  have total : progress.ledger.total = affected fate batch := by
    rw [ledger]
    rfl
  unfold Progress.verdict
  rw [total, failures]
  by_cases none : progress.failures.isEmpty
  · rw [if_pos none]
    rw [Array.isEmpty_iff] at none
    rw [none] at failures
    exact .complete failures.symm
  · rw [if_neg none]
    rw [Array.isEmpty_iff] at none
    have isolates := reached.listed.isolates none
    refine .isolated isolates ?_
    rw [← failures]
    intro empty
    exact none (Array.toList_eq_nil_iff.mp empty)

/-- An error tells the rows that one record at a time would have made durable. -/
theorem OneByOne.appliedRows {e : DbError} {durable : Nat}
    (ends : OneByOne config fate batch (.error e) durable) : e.appliedRows = some durable := by
  cases ends <;> rfl

end Courses

/-- A committed batch ends as if its records were executed and committed one at a time, and leaves
the same rows durable and none pending. -/
theorem chunked_batch_agrees_with_single_records {d : Driver σ} {counters : Counters σ}
    (transactional : Transactional d counters) {sql : String} {fate : Row → Except DbError Nat}
    {steady : σ → Prop} (rowWise : RowWise d sql fate steady) {config : ExecutorConfig}
    (positive : 0 < config.chunkSize) (commits : config.commitChunks = true) (rows : List Row)
    (channel : Channel σ) (begins : steady channel.conn)
    (clean : counters.pending channel.conn = 0) :
    ∃ durable,
      OneByOne config fate rows (ending (run d config sql rows) channel).1 durable ∧
      counters.committed (ending (run d config sql rows) channel).2.conn =
        counters.committed channel.conn + durable ∧
      counters.pending (ending (run d config sql rows) channel).2.conn = 0 := by
  obtain ⟨told, ended⟩ := run_ends d sql rows positive channel.conn channel.log
  rw [show channel = ⟨channel.conn, channel.log⟩ from rfl, ended]
  have accounted : Accounted counters config (counters.committed channel.conn)
      (batchCourse d config sql rows channel.conn) := transactional.accounted_batch rows clean
  have agrees := course_one_by_one rowWise commits (Task.ofBatch config rows) Progress.start
    channel.conn begins 0 (tiles_ofBatch config positive rows) (Reached.start config fate rows)
  have kept : ¬ RollbackLost ((batchCourse d config sql rows channel.conn).journal.flatMap
      (JournalEntry.exchanges config)) :=
    course_rollbacks_kept rowWise _ Progress.start channel.conn begins
  change match (batchCourse d config sql rows channel.conn).result with
    | .ok final => Reached config fate rows rows.length final
    | .error e => ∃ durable, OneByOne config fate rows (.error e) durable at agrees
  simp only [Course.outcome]
  unfold Accounted at accounted
  cases result : (batchCourse d config sql rows channel.conn).result with
  | ok progress =>
      rw [result] at accounted agrees
      have total : progress.ledger = ⟨affected fate rows, 0⟩ := by
        rw [agrees.ledger, List.take_length]
      obtain ⟨⟨durable, open_⟩, -⟩ := accounted
      rw [total] at durable open_
      exact ⟨affected fate rows, agrees.verdict, durable, open_⟩
  | error e =>
      rw [result] at accounted agrees
      obtain ⟨durable, ends⟩ := agrees
      obtain ⟨applied, reported, committed, -, undone⟩ := accounted
      have same : applied = durable := Option.some.inj (reported.symm.trans ends.appliedRows)
      rw [same] at committed
      exact ⟨durable, ends, committed, undone.resolve_right kept⟩

/-! ### Scripted drivers -/

/-- The script names no failure but rejected rows and long chunks. -/
structure OnlyRejects (script : DriverScript) : Prop where
  rows : script.broken = []
  chunks : script.interfaceError = false
  rollbacks : script.rollbacksBeforeFailure = none
  commits : script.commitsBeforeFailure = none

section Scripts

variable {showRow : Row → String} {script : DriverScript}

private theorem beginsWith_nil (row : Row) : Scripted.beginsWith [] row = false := by
  unfold Scripted.beginsWith
  split <;> rfl

theorem OnlyRejects.checkRow_error (onlyRejects : OnlyRejects script) {row : Row} {e : DbError}
    (rejected : Scripted.checkRow showRow script row = .error e) : e.isDatabaseError = true := by
  unfold Scripted.checkRow at rejected
  rw [onlyRejects.rows, beginsWith_nil, if_neg Bool.false_ne_true] at rejected
  split at rejected
  · cases rejected
    rfl
  · cases rejected

private theorem checkRows_ok {rows : List Row} {total count : Nat}
    (checked : Scripted.checkRows showRow script total rows = .ok count) :
    (∀ row ∈ rows, ∃ count, Scripted.checkRow showRow script row = .ok count) ∧
      count = total + affected (Scripted.checkRow showRow script) rows := by
  induction rows generalizing total with
  | nil =>
      cases checked
      exact ⟨fun row member => absurd member List.not_mem_nil, rfl⟩
  | cons row rest inductionHypothesis =>
      unfold Scripted.checkRows at checked
      cases own : Scripted.checkRow showRow script row with
      | error e =>
          rw [own] at checked
          cases checked
      | ok first =>
          rw [own] at checked
          obtain ⟨each, sum⟩ := inductionHypothesis checked
          constructor
          · intro other member
            rcases List.mem_cons.mp member with here | later
            · rw [here]
              exact ⟨first, own⟩
            · exact each other later
          · simp only [affected, own]
            omega

private theorem OnlyRejects.checkRows_error (onlyRejects : OnlyRejects script) {rows : List Row}
    {total : Nat} {e : DbError}
    (checked : Scripted.checkRows showRow script total rows = .error e) :
    e.isDatabaseError = true := by
  induction rows generalizing total with
  | nil => cases checked
  | cons row rest inductionHypothesis =>
      unfold Scripted.checkRows at checked
      cases own : Scripted.checkRow showRow script row with
      | error rejection =>
          rw [own] at checked
          cases checked
          exact onlyRejects.checkRow_error own
      | ok first =>
          rw [own] at checked
          exact inductionHypothesis checked

private theorem OnlyRejects.checkChunk_ok (onlyRejects : OnlyRejects script) {rows : List Row}
    {count : Nat} (checked : Scripted.checkChunk showRow script rows = .ok count) :
    (∀ row ∈ rows, ∃ count, Scripted.checkRow showRow script row = .ok count) ∧
      count = affected (Scripted.checkRow showRow script) rows := by
  unfold Scripted.checkChunk at checked
  rw [onlyRejects.chunks, if_neg Bool.false_ne_true] at checked
  have whole : Scripted.checkRows showRow script 0 rows = .ok count := by
    split at checked
    · split at checked
      · cases checked
      · exact checked
    · exact checked
  obtain ⟨each, sum⟩ := checkRows_ok whole
  exact ⟨each, sum.trans (Nat.zero_add _)⟩

private theorem OnlyRejects.checkChunk_error (onlyRejects : OnlyRejects script) {rows : List Row}
    {e : DbError} (checked : Scripted.checkChunk showRow script rows = .error e) :
    e.isDatabaseError = true := by
  unfold Scripted.checkChunk at checked
  rw [onlyRejects.chunks, if_neg Bool.false_ne_true] at checked
  split at checked
  · split at checked
    · cases checked
      rfl
    · exact onlyRejects.checkRows_error checked
  · exact onlyRejects.checkRows_error checked

theorem ending_enter (result : Except DbError Nat) (conn : ScriptedState) :
    (ending (Scripted.enter result) conn).1 = result ∧
      (ending (Scripted.enter result) conn).2.script = conn.script := by
  cases result <;> exact ⟨rfl, rfl⟩

/-- Entering a result leaves the script as it is. -/
theorem keeps_enter (check : ScriptedState → Except DbError Nat) :
    Keeps (fun conn => conn.script = script) (do Scripted.enter (check (← get))) := by
  intro conn same
  exact (ending_enter (check conn) conn).2.trans same

theorem OnlyRejects.ending_rollback (onlyRejects : OnlyRejects script) {conn : ScriptedState}
    (same : conn.script = script) :
    (ending Scripted.rollback conn).1 = .ok () ∧
      (ending Scripted.rollback conn).2.script = script := by
  have works : Scripted.works conn.script.rollbacksBeforeFailure conn.rollbacks = true := by
    rw [same, onlyRejects.rollbacks]
    rfl
  simp only [ending, Scripted.rollback, works, if_true]
  exact ⟨trivial, same⟩

theorem OnlyRejects.ending_commit (onlyRejects : OnlyRejects script) {conn : ScriptedState}
    (same : conn.script = script) :
    (ending Scripted.commit conn).1 = .ok () ∧
      (ending Scripted.commit conn).2.script = script := by
  have works : Scripted.works conn.script.commitsBeforeFailure conn.commits = true := by
    rw [same, onlyRejects.commits]
    rfl
  simp only [ending, Scripted.commit, works, if_true]
  exact ⟨trivial, same⟩

/-- A scripted driver that only rejects judges each record on its own. -/
theorem OnlyRejects.rowWise (onlyRejects : OnlyRejects script) (style : ParamStyle)
    (sql : String) :
    RowWise (Scripted.driver style showRow) sql (Scripted.checkRow showRow script)
      (fun conn => conn.script = script) where
  rejection rejected := onlyRejects.checkRow_error rejected
  one row conn same := by
    rw [← same]
    exact (ending_enter (Scripted.checkRow showRow conn.script row) conn).1
  many_ok {rows conn count} same executed := by
    have answer := (ending_enter (Scripted.checkChunk showRow conn.script rows) conn).1
    have checked := answer.symm.trans executed
    rw [same] at checked
    exact onlyRejects.checkChunk_ok checked
  many_error {rows conn e} same executed := by
    have answer := (ending_enter (Scripted.checkChunk showRow conn.script rows) conn).1
    have checked := answer.symm.trans executed
    rw [same] at checked
    exact onlyRejects.checkChunk_error checked
  commit same := (onlyRejects.ending_commit same).1
  rollback same := (onlyRejects.ending_rollback same).1
  keeps_one row := keeps_enter fun conn => Scripted.checkRow showRow conn.script row
  keeps_many rows := keeps_enter fun conn => Scripted.checkChunk showRow conn.script rows
  keeps_commit same := (onlyRejects.ending_commit same).2
  keeps_rollback same := (onlyRejects.ending_rollback same).2

end Scripts

/-- The database takes no chunk and rejects one record. -/
theorem chunked_batch_agrees_with_single_records_scripted :
    let script : DriverScript := { bad := [2], maxRows := some 1 }
    let d := Scripted.driver .qmark Row.describe
    let config : ExecutorConfig := { chunkSize := 3, failurePolicy := .isolate }
    let rows : List Row := [[.int 1], [.int 2], [.int 3], [.int 4]]
    let fate := Scripted.checkRow Row.describe script
    let channel : Channel ScriptedState := ⟨ScriptedState.start script, #[]⟩
    RowWise d "insert" fate (fun conn => conn.script = script) ∧
      Transactional d scriptedCounters ∧ 0 < config.chunkSize ∧ config.commitChunks = true ∧
      channel.conn.script = script ∧ scriptedCounters.pending channel.conn = 0 ∧
      (rejections fate 0 rows).map FailedRecord.index = [1] ∧
      OneByOne config fate rows (ending (run d config "insert" rows) channel).1 3 ∧
      scriptedCounters.committed (ending (run d config "insert" rows) channel).2.conn = 3 := by
  intro script d config rows fate channel
  have rowWise : RowWise d "insert" fate (fun conn => conn.script = script) :=
    OnlyRejects.rowWise ⟨rfl, rfl, rfl, rfl⟩ .qmark "insert"
  have transactional := scripted_transactional .qmark Row.describe
  obtain ⟨durable, ends, committed, -⟩ :=
    chunked_batch_agrees_with_single_records transactional rowWise
      (show 0 < config.chunkSize by decide) (show config.commitChunks = true by rfl) rows channel
      (show channel.conn.script = script by rfl) rfl
  have three : scriptedCounters.committed (ending (run d config "insert" rows) channel).2.conn =
      3 := by
    decide +kernel
  have same : durable = 3 := by
    rw [three] at committed
    exact (Nat.zero_add durable).symm.trans committed.symm
  rw [same] at ends
  exact ⟨rowWise, transactional, by decide, rfl, rfl, rfl, by decide +kernel, ends, three⟩

end SqlBind.Execution
