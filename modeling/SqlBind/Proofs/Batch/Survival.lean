import SqlBind.Proofs.Batch.Discipline
import SqlBind.Proofs.Batch.OneByOne

/-!
Owns: batches without commits, whose records stay in the open transaction until a rollback undoes
them. A rejected record causes several rollbacks, of the chunks that held it and at last of the
record alone; only the last one decides, for it comes after everything before that record.

Main statement: what survives is what the records after the last rejected one affected, wherever the
chunks began (`survivors_follow_the_last_rejection`).
-/

set_option autoImplicit false

namespace SqlBind.Execution

variable {σ : Type}

/-! ### Records one at a time, without commits -/

/-- The rows that a transaction holds after records were executed in it one at a time, when it held
`held` before. A rejected record undoes all of them. -/
def surviving (fate : Row → Except DbError Nat) (held : Nat) : List Row → Nat
  | [] => held
  | row :: rest =>
      match fate row with
      | .ok count => surviving fate (held + count) rest
      | .error _ => surviving fate 0 rest

section Fates

variable {fate : Row → Except DbError Nat}

/-- What survives two parts is what survives the second on top of the first. -/
theorem surviving_append (held : Nat) (left right : List Row) :
    surviving fate held (left ++ right) = surviving fate (surviving fate held left) right := by
  induction left generalizing held with
  | nil => rfl
  | cons row rest inductionHypothesis =>
      simp only [List.cons_append, surviving]
      cases fate row with
      | ok count => exact inductionHypothesis (held + count)
      | error e => exact inductionHypothesis 0

/-- Without a rejected record all rows survive. -/
theorem surviving_of_accepted {rows : List Row}
    (accepted : ∀ row ∈ rows, ∃ count, fate row = .ok count) (held : Nat) :
    surviving fate held rows = held + affected fate rows := by
  induction rows generalizing held with
  | nil => rfl
  | cons row rest inductionHypothesis =>
      obtain ⟨count, fine⟩ := accepted row List.mem_cons_self
      have later := inductionHypothesis (fun other member => accepted other (.tail row member))
        (held + count)
      simp only [surviving, affected, fine]
      rw [later, Nat.add_assoc]

/-- What was held before the last rejected record does not matter. -/
theorem surviving_of_rejected {last : Row} {e : DbError} (rejected : fate last = .error e)
    {after : List Row} (accepted : ∀ row ∈ after, ∃ count, fate row = .ok count) (held : Nat)
    (before : List Row) : surviving fate held (before ++ last :: after) = affected fate after := by
  rw [surviving_append]
  simp only [surviving, rejected]
  rw [surviving_of_accepted accepted, Nat.zero_add]

theorem accepted_or_rejected (fate : Row → Except DbError Nat) (rows : List Row) :
    (∀ row ∈ rows, ∃ count, fate row = .ok count) ∨ ∃ row ∈ rows, ∃ e, fate row = .error e := by
  by_cases each : ∀ row ∈ rows, ∃ count, fate row = .ok count
  · exact Or.inl each
  · right
    push Not at each
    obtain ⟨row, member, none⟩ := each
    refine ⟨row, member, ?_⟩
    cases own : fate row with
    | ok count => exact absurd own (none count)
    | error e => exact ⟨e, rfl⟩

end Fates

/-! ### Drivers that decide by the records alone -/

/-- On steady connections a row meets its own fate whenever it is executed, and a rejection comes
from the database. Several rows at once are executed if each is accepted, and rejected by the
database if one is not. Rollback works; commit may do anything. -/
structure Decides (d : Driver σ) (sql : String) (fate : Row → Except DbError Nat)
    (steady : σ → Prop) : Prop where
  rejection : ∀ {row e}, fate row = .error e → e.isDatabaseError = true
  one : ∀ row {conn}, steady conn → (ending (d.executeOne sql row) conn).1 = fate row
  many_accepted : ∀ {rows conn}, steady conn → (∀ row ∈ rows, ∃ count, fate row = .ok count) →
    (ending (d.executeMany sql rows) conn).1 = .ok (affected fate rows)
  many_rejected : ∀ {rows conn}, steady conn → (∃ row ∈ rows, ∃ e, fate row = .error e) →
    ∃ e, (ending (d.executeMany sql rows) conn).1 = .error e ∧ e.isDatabaseError = true
  rollback : ∀ {conn}, steady conn → (ending d.rollback conn).1 = .ok ()
  keeps_one : ∀ row, Keeps steady (d.executeOne sql row)
  keeps_many : ∀ rows, Keeps steady (d.executeMany sql rows)
  keeps_rollback : Keeps steady d.rollback

/-- The driver with a commit that does nothing. -/
def withoutCommit (d : Driver σ) : Driver σ := { d with commit := pure () }

section Drivers

variable {d : Driver σ} {sql : String} {fate : Row → Except DbError Nat} {steady : σ → Prop}
  {config : ExecutorConfig} {task : Task} {trial : Trial} {conn after : σ}

/-- With commits that do nothing, a driver that decides by the rows does so row by row. -/
theorem Decides.rowWise (decides : Decides d sql fate steady) :
    RowWise (withoutCommit d) sql fate steady where
  rejection := decides.rejection
  one := decides.one
  many_ok {rows conn count} begins executed := by
    rcases accepted_or_rejected fate rows with each | some
    · have answer := (decides.many_accepted begins each).symm.trans executed
      exact ⟨each, (Except.ok.inj answer).symm⟩
    · obtain ⟨e, fails, -⟩ := decides.many_rejected begins some
      cases fails.symm.trans executed
  many_error {rows conn e} begins executed := by
    rcases accepted_or_rejected fate rows with each | some
    · cases (decides.many_accepted begins each).symm.trans executed
    · obtain ⟨other, fails, database⟩ := decides.many_rejected begins some
      cases fails.symm.trans executed
      exact database
  commit _ := rfl
  rollback := decides.rollback
  keeps_one := decides.keeps_one
  keeps_many := decides.keeps_many
  keeps_commit begins := begins
  keeps_rollback := decides.keeps_rollback

/-- A mode that never commits goes the same way on a driver that cannot commit. -/
theorem Trial.Made.withoutCommit {execution : EStateM DbError σ Nat}
    (made : Trial.Made d config execution conn trial after) (mode : config.commitChunks = false) :
    Trial.Made (withoutCommit d) config execution conn trial after := by
  cases made with
  | pending mode executed => exact .pending mode executed
  | committed commits executed settled =>
      rw [mode] at commits
      cases commits
  | uncommitted commits executed refused undone =>
      rw [mode] at commits
      cases commits
  | failed executed undone => exact .failed executed undone

private theorem Task.execution_withoutCommit (task : Task) (d : Driver σ) (sql : String) :
    task.execution (withoutCommit d) sql = task.execution d sql := by
  cases task <;> rfl

theorem Decides.fair_trial (decides : Decides d sql fate steady)
    (mode : config.commitChunks = false) (begins : steady conn)
    (made : Trial.Made d config (task.execution d sql) conn trial after) :
    Fair fate task trial ∧ steady after := by
  have same := made.withoutCommit mode
  rw [← task.execution_withoutCommit] at same
  exact decides.rowWise.fair_trial begins same

/-- An execution fails only for a record that it carries. -/
theorem Decides.sent_rejected (decides : Decides d sql fate steady) (begins : steady conn)
    {e : DbError} {rollback : Except DbError Unit}
    (made : Trial.Made d config (task.execution d sql) conn (.failed e rollback) after) :
    ∃ row ∈ task.sent, ∃ e, fate row = .error e := by
  rcases accepted_or_rejected fate task.sent with each | some
  · cases made with
    | failed executed undone =>
        have fails := congrArg Prod.fst executed
        cases task with
        | chunks stretch => cases (decides.many_accepted begins each).symm.trans fails
        | records range index row rest =>
            obtain ⟨count, fine⟩ := each row List.mem_cons_self
            cases fine.symm.trans ((decides.one row begins).symm.trans fails)
  · exact some

end Drivers

/-! ### Progress through the batch -/

/-- How a batch without commits ends, and what is pending then, if its transaction held `held`
before. -/
structure Survives (config : ExecutorConfig) (fate : Row → Except DbError Nat) (batch : List Row)
    (held : Nat) (result : Except DbError Nat) (pending : Nat) : Prop where
  /-- If no record is rejected, all of them are counted and stay beside what was held. -/
  complete : (∀ row ∈ batch, ∃ count, fate row = .ok count) →
    result = .ok (affected fate batch) ∧ pending = held + affected fate batch
  /-- If rejected records are set aside, those after the last of them are counted and stay. -/
  isolated : config.failurePolicy = .isolate → ∀ before last after e,
    batch = before ++ last :: after → fate last = .error e →
    (∀ row ∈ after, ∃ count, fate row = .ok count) →
    result = .error (.partialBatch (affected fate after) (rejections fate 0 batch)) ∧
      pending = affected fate after
  /-- If the batch stops at its first rejected record, nothing is counted and nothing stays. -/
  aborted : config.failurePolicy = .abort → ∀ before first after e,
    batch = before ++ first :: after → (∀ row ∈ before, ∃ count, fate row = .ok count) →
    fate first = .error e →
    ∃ chunk, WellPlaced config.chunkSize batch.length (some before.length) chunk ∧
      result = .error (.execution before.length chunk 0 (Row.describe first) e) ∧ pending = 0

/-- A batch without commits that found `base` durable rows and `held` pending ones and has settled
the records before `position`. Both accounts say what survived so far, unless a rejected record is
still ahead, whose chunk may have been rolled back already. -/
structure Standing (counters : Counters σ) (config : ExecutorConfig)
    (fate : Row → Except DbError Nat) (batch : List Row) (base held position : Nat)
    (progress : Progress) (conn : σ) : Prop where
  listed : Listed config fate batch position progress
  undurable : progress.ledger.committed = 0
  committed : counters.committed conn = base
  pending : (∃ row ∈ batch.drop position, ∃ e, fate row = .error e) ∨
    progress.ledger.pending = surviving fate 0 (batch.take position) ∧
      counters.pending conn = surviving fate held (batch.take position)

/-- A batch that was given up at its first rejected record. Nothing of it is applied. -/
structure GivenUp (counters : Counters σ) (config : ExecutorConfig)
    (fate : Row → Except DbError Nat) (batch : List Row) (base : Nat) (fault : DbError)
    (conn : σ) : Prop where
  policy : config.failurePolicy = .abort
  first : ∃ first others chunk, rejections fate 0 batch = first :: others ∧
    WellPlaced config.chunkSize batch.length (some first.index) chunk ∧
    fault = .execution first.index chunk 0 first.record first.error
  committed : counters.committed conn = base
  pending : counters.pending conn = 0

section Steps

variable {d : Driver σ} {counters : Counters σ} {sql : String} {fate : Row → Except DbError Nat}
  {steady : σ → Prop} {config : ExecutorConfig} {batch : List Row} {base held : Nat} {task : Task}
  {trial : Trial} {progress next : Progress} {tasks : List Task} {conn after : σ}

/-- What a trial without commits does to the counters. -/
theorem Transactional.trial_uncommitted (transactional : Transactional d counters)
    (mode : config.commitChunks = false)
    (made : Trial.Made d config (task.execution d sql) conn trial after)
    (fair : Fair fate task trial) :
    counters.committed after = counters.committed conn ∧
      counters.pending after = match trial with
        | .applied count => counters.pending conn + count
        | _ => 0 := by
  have inStep : InStep counters (counters.committed conn) ⟨0, counters.pending conn⟩ conn :=
    ⟨rfl, rfl⟩
  have counted := transactional.trial (transactional.execution sql task) inStep made
  cases fair with
  | accepted task each =>
      simp only [mode, Bool.false_eq_true, if_false] at counted
      exact ⟨counted.committed, counted.pending⟩
  | refused stretch retryable => exact ⟨counted.committed, counted.pending rfl⟩
  | rejected range index row rest e retryable own =>
      exact ⟨counted.committed, counted.pending rfl⟩

/-- A trial that does not end the batch leaves it standing, behind the records that it settled. -/
theorem Standing.goOn (standing : Standing counters config fate batch base held task.start progress
      conn)
    (transactional : Transactional d counters) (decides : Decides d sql fate steady)
    (mode : config.commitChunks = false) (begins : steady conn)
    (holds : task.rows <+: batch.drop task.start)
    (made : Trial.Made d config (task.execution d sql) conn trial after)
    (fair : Fair fate task trial)
    (goesOn : Task.GoesOn config progress task trial tasks next) :
    Standing counters config fate batch base held
      (task.start + ((task.entry sql trial).settled config.failurePolicy).length) next after := by
  have sent := Task.sent_prefix holds
  have taken := take_add_of_prefix sent
  have listed := standing.listed.goOn sql holds fair goesOn
  obtain ⟨committed, pending⟩ := transactional.trial_uncommitted mode made fair
  have committed := committed.trans standing.committed
  cases goesOn with
  | applied task count =>
      rw [JournalEntry.settled_applied, Task.length_indices] at listed ⊢
      simp only [mode, Bool.false_eq_true, if_false] at listed ⊢
      cases fair with
      | accepted task each =>
          refine ⟨listed, standing.undurable, committed, ?_⟩
          rcases standing.pending with ⟨row, ahead, e, rejected⟩ | ⟨ledger, open_⟩
          -- The records that were sent are accepted, so a rejected one is still ahead.
          · left
            refine ⟨row, ?_, e, rejected⟩
            obtain ⟨tail, split⟩ := sent
            rw [← List.drop_drop, ← split, List.drop_left]
            rw [← split] at ahead
            rcases List.mem_append.mp ahead with here | later
            · obtain ⟨count, fine⟩ := each row here
              cases fine.symm.trans rejected
            · exact later
          · right
            rw [taken, surviving_append, surviving_append, surviving_of_accepted each,
              surviving_of_accepted each, ← ledger, ← open_]
            exact ⟨rfl, pending⟩
  | single stretch retryable small =>
      rw [JournalEntry.settled_chunk_failed] at listed ⊢
      obtain ⟨row, member, e, rejected⟩ := decides.sent_rejected begins made
      exact ⟨listed, standing.undurable, committed, Or.inl ⟨row, sent.subset member, e, rejected⟩⟩
  | smaller stretch retryable large =>
      rw [JournalEntry.settled_chunk_failed] at listed ⊢
      obtain ⟨row, member, e, rejected⟩ := decides.sent_rejected begins made
      exact ⟨listed, standing.undurable, committed, Or.inl ⟨row, sent.subset member, e, rejected⟩⟩
  | isolated range index row rest retryable policy =>
      cases fair with
      | rejected range index row rest e retryable own =>
          rw [policy, JournalEntry.settled_isolated sql range index row rest retryable] at listed ⊢
          have further : batch.take (index + 1) = batch.take index ++ [row] := taken
          have nothing : ∀ held, surviving fate held (batch.take (index + 1)) = 0 := by
            intro held
            rw [further]
            exact surviving_of_rejected own (fun other member => absurd member List.not_mem_nil)
              held _
          refine ⟨listed, standing.undurable, committed, Or.inr ⟨?_, ?_⟩⟩
          · exact (nothing 0).symm
          · exact pending.trans (nothing held).symm

/-- A trial that ends the batch gives it up. -/
theorem Standing.stop (standing : Standing counters config fate batch base held task.start progress
      conn)
    (transactional : Transactional d counters) (mode : config.commitChunks = false)
    (fits : task.Fits config.chunkSize) (holds : task.rows <+: batch.drop task.start)
    (made : Trial.Made d config (task.execution d sql) conn trial after)
    (fair : Fair fate task trial) {fault : DbError}
    (stops : Task.Stops config progress task trial fault) :
    GivenUp counters config fate batch base fault after := by
  obtain ⟨committed, pending⟩ := transactional.trial_uncommitted mode made fair
  obtain ⟨policy, first, others, chunk, rejected, -, placed, rfl⟩ :=
    standing.listed.stop fits holds fair stops
  rw [standing.undurable]
  refine ⟨policy, ⟨first, others, chunk, rejected, placed, rfl⟩,
    committed.trans standing.committed, ?_⟩
  cases fair with
  | accepted task each => cases stops
  | refused stretch retryable => exact pending
  | rejected range index row rest e retryable own => exact pending

end Steps

/-! ### The whole batch -/

section Courses

variable {d : Driver σ} {counters : Counters σ} {sql : String} {fate : Row → Except DbError Nat}
  {steady : σ → Prop} {config : ExecutorConfig} {batch : List Row} {base held : Nat}

private theorem course_standing (transactional : Transactional d counters)
    (decides : Decides d sql fate steady) (mode : config.commitChunks = false) (tasks : List Task)
    (progress : Progress) (conn : σ) (begins : steady conn) (position : Nat)
    (tiles : Tiles config.chunkSize batch position batch.length tasks)
    (standing : Standing counters config fate batch base held position progress conn) :
    match (course d config sql tasks progress conn).result with
    | .ok final => Standing counters config fate batch base held batch.length final
        (course d config sql tasks progress conn).conn
    | .error fault => GivenUp counters config fate batch base fault
        (course d config sql tasks progress conn).conn := by
  fun_induction course d config sql tasks progress conn generalizing position with
  | case1 progress conn =>
      cases tiles
      exact standing
  | case2 task rest progress conn trial after tried e advanced =>
      obtain ⟨rfl, fits, holds, -⟩ := tiles
      have made := Trial.made tried
      have fair := (decides.fair_trial mode begins made).1
      exact standing.stop transactional mode fits holds made fair (Task.stops advanced)
  | case3 task rest progress conn trial after tried tasks next advanced inductionHypothesis =>
      obtain ⟨rfl, fits, holds, tiles⟩ := tiles
      have made := Trial.made tried
      obtain ⟨fair, steady⟩ := decides.fair_trial mode begins made
      have goesOn := Task.goesOn advanced
      have further := standing.goOn transactional decides mode begins holds made fair goesOn
      obtain ⟨count, settled, left⟩ := goesOn.settles sql fits holds
      rw [settled, List.length_range'] at further
      exact inductionHypothesis steady (task.start + count) (left.append tiles) further

theorem Standing.start (counters : Counters σ) (config : ExecutorConfig)
    (fate : Row → Except DbError Nat) (batch : List Row) (conn : σ) :
    Standing counters config fate batch (counters.committed conn) (counters.pending conn) 0
      Progress.start conn :=
  ⟨⟨rfl, fun _ => rfl⟩, rfl, rfl, Or.inr ⟨rfl, rfl⟩⟩

private theorem rejections_of_first {before after : List Row} {first : Row} {e : DbError}
    (split : batch = before ++ first :: after)
    (accepted : ∀ row ∈ before, ∃ count, fate row = .ok count) (rejected : fate first = .error e) :
    rejections fate 0 batch =
      ⟨before.length, Row.describe first, e⟩ :: rejections fate (before.length + 1) after := by
  rw [split]
  exact rejections_first (rejections_of_accepted accepted 0) rejected after

private theorem rejections_ne_nil {before after : List Row} {row : Row} {e : DbError}
    (split : batch = before ++ row :: after) (rejected : fate row = .error e) :
    rejections fate 0 batch ≠ [] := by
  rw [split, rejections_append]
  simp [rejections, rejected]

/-- At the end of the batch no rejected record is ahead. -/
theorem Standing.survives {progress : Progress} {conn : σ}
    (standing : Standing counters config fate batch base held batch.length progress conn) :
    Survives config fate batch held progress.verdict (counters.pending conn) := by
  obtain ⟨listed, undurable, -, pending⟩ := standing
  have failures := listed.failures
  rw [List.drop_length, List.take_length] at pending
  rw [List.take_length] at failures
  obtain ⟨ledger, open_⟩ := pending.resolve_left (by simp)
  have total : progress.ledger.total = surviving fate 0 batch := by
    rw [Ledger.total, undurable, ledger, Nat.zero_add]
  have partly : rejections fate 0 batch ≠ [] → config.failurePolicy = .isolate ∧
      progress.verdict =
        .error (.partialBatch (surviving fate 0 batch) (rejections fate 0 batch)) := by
    intro some
    have listsSome : progress.failures ≠ #[] := by
      rw [← failures] at some
      simpa using some
    refine ⟨listed.isolates listsSome, ?_⟩
    rw [Progress.verdict, if_neg (by simpa using listsSome), total, failures]
  constructor
  · intro accepted
    have none : progress.failures = #[] := by
      rw [rejections_of_accepted accepted] at failures
      exact Array.toList_eq_nil_iff.mp failures
    rw [open_, surviving_of_accepted accepted]
    rw [surviving_of_accepted accepted, Nat.zero_add] at total
    rw [Progress.verdict, if_pos (by simp [none]), total]
    exact ⟨rfl, rfl⟩
  · intro isolates before last after e split rejected accepted
    have survive : ∀ held, surviving fate held batch = affected fate after := by
      intro held
      rw [split]
      exact surviving_of_rejected rejected accepted held before
    rw [(partly (rejections_ne_nil split rejected)).2, open_, survive, survive]
    exact ⟨rfl, rfl⟩
  · intro aborts before first after e split accepted rejected
    cases aborts.symm.trans (partly (rejections_ne_nil split rejected)).1

/-- Giving up at the first rejected record is what an abort is to do. -/
theorem GivenUp.survives {fault : DbError} {conn : σ}
    (givenUp : GivenUp counters config fate batch base fault conn) :
    Survives config fate batch held (.error fault) (counters.pending conn) := by
  obtain ⟨policy, ⟨failure, others, chunk, listed, placed, rfl⟩, -, undone⟩ := givenUp
  constructor
  · intro accepted
    cases listed.symm.trans (rejections_of_accepted accepted 0)
  · intro isolates
    cases policy.symm.trans isolates
  · intro aborts before first after e split accepted rejected
    cases listed.symm.trans (rejections_of_first split accepted rejected)
    exact ⟨chunk, placed, rfl, undone⟩

end Courses

/-- What a batch without commits leaves does not depend on its chunks. If no record is rejected, all
of them stay in the open transaction beside what it held before. If the rejected ones are set aside,
only the rows of the records after the last of them survive and are counted; everything before it,
older work in the transaction included, is undone. If the batch stops at the first rejected record,
nothing survives and nothing is counted. Nothing becomes durable and no commit is made. -/
theorem survivors_follow_the_last_rejection {d : Driver σ} {counters : Counters σ}
    (transactional : Transactional d counters) {sql : String} {fate : Row → Except DbError Nat}
    {steady : σ → Prop} (decides : Decides d sql fate steady) {config : ExecutorConfig}
    (positive : 0 < config.chunkSize) (mode : config.commitChunks = false) (rows : List Row)
    (channel : Channel σ) (begins : steady channel.conn) :
    let ended := ending (run d config sql rows) channel
    Survives config fate rows (counters.pending channel.conn) ended.1
        (counters.pending ended.2.conn) ∧
      counters.committed ended.2.conn = counters.committed channel.conn ∧
      ∀ exchange ∈ exchanges d config sql rows channel.conn, exchange.call ≠ .commit := by
  intro ended
  obtain ⟨told, ends⟩ := run_ends d sql rows positive channel.conn channel.log
  have runs : ended = ((batchCourse d config sql rows channel.conn).outcome,
      ⟨(batchCourse d config sql rows channel.conn).conn, told⟩) := ends
  have standing := course_standing transactional decides mode (Task.ofBatch config rows)
    Progress.start channel.conn begins 0 (tiles_ofBatch config positive rows)
    (Standing.start counters config fate rows channel.conn)
  change match (batchCourse d config sql rows channel.conn).result with
    | .ok final => Standing counters config fate rows _ _ rows.length final
        (batchCourse d config sql rows channel.conn).conn
    | .error fault => GivenUp counters config fate rows _ fault
        (batchCourse d config sql rows channel.conn).conn at standing
  have silent : ∀ exchange ∈ exchanges d config sql rows channel.conn, exchange.call ≠ .commit := by
    rw [exchanges_eq_journal d sql rows positive channel.conn]
    exact (course_lawful _ _ _ none).forall_mem fun lawful => lawful.uncommitted mode
  rw [runs, Course.outcome]
  cases result : (batchCourse d config sql rows channel.conn).result with
  | ok final =>
      rw [result] at standing
      exact ⟨standing.survives, standing.committed, silent⟩
  | error fault =>
      rw [result] at standing
      exact ⟨standing.survives, standing.committed, silent⟩

/-! ### Scripted drivers -/

section Scripts

variable {showRow : Row → String} {script : DriverScript}

private theorem checkRows_of_accepted {rows : List Row}
    (accepted : ∀ row ∈ rows, ∃ count, Scripted.checkRow showRow script row = .ok count)
    (total : Nat) :
    Scripted.checkRows showRow script total rows =
      .ok (total + affected (Scripted.checkRow showRow script) rows) := by
  induction rows generalizing total with
  | nil => rfl
  | cons row rest inductionHypothesis =>
      obtain ⟨count, fine⟩ := accepted row List.mem_cons_self
      have later := inductionHypothesis (fun other member => accepted other (.tail row member))
        (total + count)
      simp only [Scripted.checkRows, affected, fine]
      rw [later, Nat.add_assoc]

/-- A scripted driver that does nothing but reject rows decides by the rows alone. -/
theorem OnlyRejects.decides (onlyRejects : OnlyRejects script) (unlimited : script.maxRows = none)
    (style : ParamStyle) (sql : String) :
    Decides (Scripted.driver style showRow) sql (Scripted.checkRow showRow script)
      (fun conn => conn.script = script) where
  rejection rejected := onlyRejects.checkRow_error rejected
  one row conn same := (onlyRejects.rowWise style sql).one row same
  many_accepted {rows conn} same accepted := by
    subst same
    have answer : (ending ((Scripted.driver style showRow).executeMany sql rows) conn).1 =
        Scripted.checkChunk showRow conn.script rows := (ending_enter _ conn).1
    have checked := checkRows_of_accepted accepted 0
    rw [Nat.zero_add] at checked
    simp only [answer, Scripted.checkChunk, onlyRejects.chunks, unlimited, Bool.false_eq_true,
      if_false, checked]
  many_rejected {rows conn} same some := by
    have rowWise : RowWise (Scripted.driver style showRow) sql
        (Scripted.checkRow showRow script) (fun conn => conn.script = script) :=
      onlyRejects.rowWise style sql
    cases answered : (ending ((Scripted.driver style showRow).executeMany sql rows) conn).1 with
    | ok count =>
        obtain ⟨row, member, e, rejected⟩ := some
        obtain ⟨count, fine⟩ := (rowWise.many_ok same answered).1 row member
        cases fine.symm.trans rejected
    | error e => exact ⟨e, rfl, rowWise.many_error same answered⟩
  rollback same := (onlyRejects.ending_rollback same).1
  keeps_one row := keeps_enter fun conn => Scripted.checkRow showRow conn.script row
  keeps_many rows := keeps_enter fun conn => Scripted.checkChunk showRow conn.script rows
  keeps_rollback same := (onlyRejects.ending_rollback same).2

end Scripts

/-- Two of five records are rejected, in different chunks; one row was pending before. -/
theorem survivors_follow_the_last_rejection_scripted :
    let script : DriverScript := { bad := [2, 4] }
    let d := Scripted.driver .qmark Row.describe
    let config : ExecutorConfig :=
      { chunkSize := 3, commitChunks := false, failurePolicy := .isolate }
    let rows : List Row := [[.int 1], [.int 2], [.int 3], [.int 4], [.int 5]]
    let fate := Scripted.checkRow Row.describe script
    let channel : Channel ScriptedState := ⟨{ ScriptedState.start script with pending := 1 }, #[]⟩
    let ended := ending (run d config "insert" rows) channel
    Transactional d scriptedCounters ∧ Decides d "insert" fate (fun conn => conn.script = script) ∧
      0 < config.chunkSize ∧ config.commitChunks = false ∧ channel.conn.script = script ∧
      config.failurePolicy = .isolate ∧
      ended.1 = .error (.partialBatch 1 (rejections fate 0 rows)) ∧
      (rejections fate 0 rows).map FailedRecord.index = [1, 3] ∧
      scriptedCounters.pending ended.2.conn = 1 := by
  intro script d config rows fate channel ended
  have transactional := scripted_transactional .qmark Row.describe
  have decides : Decides d "insert" fate (fun conn => conn.script = script) :=
    OnlyRejects.decides ⟨rfl, rfl, rfl, rfl⟩ rfl .qmark "insert"
  obtain ⟨survives, -⟩ := survivors_follow_the_last_rejection transactional decides
    (show 0 < config.chunkSize by decide) (show config.commitChunks = false by rfl) rows channel
    (show channel.conn.script = script by rfl)
  obtain ⟨reports, stays⟩ := survives.isolated rfl [[.int 1], [.int 2], [.int 3]] [.int 4]
    [[.int 5]] _ rfl rfl (by simp [fate, Scripted.checkRow, Scripted.beginsWith, script])
  exact ⟨transactional, decides, by decide, rfl, rfl, rfl, reports, by decide +kernel, stays⟩

end SqlBind.Execution
