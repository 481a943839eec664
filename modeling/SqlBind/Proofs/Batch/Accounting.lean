import SqlBind.Driver.Scripted
import SqlBind.Proofs.Batch.Agreement

/-!
Owns: the account that a batch keeps, compared with what the database holds. A transactional driver
counts the rows of its open transaction and the durable ones; the ledger of the batch is kept apart
from these counters and stays in step with them through every trial.

Main statement: what a batch reports is what became durable or, without commits, what the open
transaction holds (`reported_rows_match_counters`).
-/

set_option autoImplicit false

namespace SqlBind.Execution

variable {σ : Type}

/-! ### Transactional drivers -/

/-- Two counts of affected rows, read off a connection. -/
structure Counters (σ : Type) where
  /-- The rows that the open transaction holds. -/
  pending : σ → Nat
  /-- The rows that are durable. -/
  committed : σ → Nat

/-- A successful call adds what it returns to the pending rows. After a failed one the pending rows
may be any number. -/
structure Counters.CountedBy (counters : Counters σ) (call : EStateM DbError σ Nat) : Prop where
  ok : ∀ {conn count after}, call conn = .ok count after →
    counters.pending after = counters.pending conn + count ∧
      counters.committed after = counters.committed conn
  error : ∀ {conn e after}, call conn = .error e after →
    counters.committed after = counters.committed conn

/-- A driver that keeps the counters. Any call may fail, with any error. -/
structure Transactional (d : Driver σ) (counters : Counters σ) : Prop where
  one : ∀ sql row, counters.CountedBy (d.executeOne sql row)
  many : ∀ sql rows, counters.CountedBy (d.executeMany sql rows)
  rollback_ok : ∀ {conn after}, d.rollback conn = .ok () after →
    counters.pending after = 0 ∧ counters.committed after = counters.committed conn
  rollback_error : ∀ {conn e after}, d.rollback conn = .error e after →
    counters.committed after = counters.committed conn
  commit_ok : ∀ {conn after}, d.commit conn = .ok () after →
    counters.committed after = counters.committed conn + counters.pending conn ∧
      counters.pending after = 0
  commit_error : ∀ {conn e after}, d.commit conn = .error e after →
    counters.committed after = counters.committed conn

/-! ### The ledger in step with the counters -/

/-- The ledger of a batch that found `base` durable rows says what the counters say. -/
structure InStep (counters : Counters σ) (base : Nat) (ledger : Ledger) (conn : σ) : Prop where
  committed : counters.committed conn = base + ledger.committed
  pending : counters.pending conn = ledger.pending

/-- With commits nothing stays pending between trials, and without them nothing becomes
durable. -/
def Ledger.Suits (ledger : Ledger) (config : ExecutorConfig) : Prop :=
  if config.commitChunks then ledger.pending = 0 else ledger.committed = 0

theorem Ledger.suits_discard {ledger : Ledger} {config : ExecutorConfig}
    (suits : ledger.Suits config) : ledger.discard.Suits config := by
  unfold Ledger.Suits at suits ⊢
  split at suits <;> simp_all [Ledger.discard]

private theorem Ledger.suits_settled {ledger : Ledger} {config : ExecutorConfig}
    (suits : ledger.Suits config) (count : Nat) :
    (if config.commitChunks then (ledger.add count).commit else ledger.add count).Suits config := by
  unfold Ledger.Suits at suits ⊢
  split at suits <;> simp_all [Ledger.add, Ledger.commit]

/-- Some rollback among the exchanges failed. -/
def RollbackLost (exchanges : List Exchange) : Prop :=
  ∃ e, (⟨.rollback, .error e⟩ : Exchange) ∈ exchanges

/-- Of the rows of a transaction that was to be undone, none is durable, and none is pending unless
the rollback failed. -/
structure Undone (counters : Counters σ) (base : Nat) (ledger : Ledger)
    (rollback : Except DbError Unit) (conn : σ) : Prop where
  committed : counters.committed conn = base + ledger.committed
  pending : rollback = .ok () → counters.pending conn = 0

section Trials

variable {d : Driver σ} {counters : Counters σ} {config : ExecutorConfig} {base : Nat}
  {ledger : Ledger} {conn after : σ}

/-- A rollback leaves what is durable as it is and, unless it fails, nothing pending. -/
theorem Transactional.undone (transactional : Transactional d counters) (ledger : Ledger)
    (committed : counters.committed conn = base + ledger.committed) :
    Undone counters base ledger (ending d.rollback conn).1 (ending d.rollback conn).2 := by
  cases ended : ending d.rollback conn with
  | mk rollback after =>
      cases rollback with
      | ok =>
          have kept := transactional.rollback_ok (of_ending_ok ended)
          exact ⟨kept.2.trans committed, fun _ => kept.1⟩
      | error e =>
          have kept := transactional.rollback_error (of_ending_error ended)
          exact ⟨kept.trans committed, fun undone => by cases undone⟩

/-- What a trial does to the counters. -/
theorem Transactional.trial (transactional : Transactional d counters)
    {execution : EStateM DbError σ Nat} (counted : counters.CountedBy execution)
    (inStep : InStep counters base ledger conn) {trial : Trial}
    (made : Trial.Made d config execution conn trial after) :
    match trial with
    | .applied count =>
        InStep counters base
          (if config.commitChunks then (ledger.add count).commit else ledger.add count) after
    | .uncommitted _ _ rollback => Undone counters base ledger rollback after
    | .failed _ rollback => Undone counters base ledger rollback after := by
  have durable := inStep.committed
  have open_ := inStep.pending
  cases made with
  | pending mode executed =>
      have added := counted.ok (of_ending_ok executed)
      simp only [mode, Bool.false_eq_true, if_false]
      exact ⟨added.2.trans durable, by rw [added.1, open_]; rfl⟩
  | committed mode executed settled =>
      have added := counted.ok (of_ending_ok executed)
      have kept := transactional.commit_ok (of_ending_ok settled)
      simp only [mode, if_true]
      refine ⟨?_, kept.2⟩
      rw [kept.1, added.1, added.2, durable, open_]
      simp only [Ledger.add, Ledger.commit]
      omega
  | uncommitted mode executed refused undone =>
      have added := counted.ok (of_ending_ok executed)
      have kept := transactional.commit_error (of_ending_error refused)
      have undoing := transactional.undone ledger (kept.trans (added.2.trans durable))
      rw [undone] at undoing
      exact undoing
  | failed executed undone =>
      have kept := counted.error (of_ending_error executed)
      have undoing := transactional.undone ledger (kept.trans durable)
      rw [undone] at undoing
      exact undoing

theorem Undone.inStep_discard (undone : Undone counters base ledger (.ok ()) conn) :
    InStep counters base ledger.discard conn :=
  ⟨undone.committed, undone.pending rfl⟩

end Trials

/-! ### The account of a whole batch -/

/-- The counters agree with how a course ended. -/
def Accounted (counters : Counters σ) (config : ExecutorConfig) (base : Nat)
    (course : Course σ) : Prop :=
  match course.result with
  | .ok progress => InStep counters base progress.ledger course.conn ∧ progress.ledger.Suits config
  | .error e =>
      ∃ applied, e.appliedRows = some applied ∧
        counters.committed course.conn = base + applied ∧
        (config.commitChunks = false → applied = 0) ∧
        (counters.pending course.conn = 0 ∨
          RollbackLost (course.journal.flatMap (JournalEntry.exchanges config)))

theorem rollbackLost_append (left right : List Exchange) :
    RollbackLost (left ++ right) ↔ RollbackLost left ∨ RollbackLost right := by
  simp only [RollbackLost, List.mem_append, exists_or]

theorem RollbackLost.cons {config : ExecutorConfig} {journal : List JournalEntry}
    (lost : RollbackLost (journal.flatMap (JournalEntry.exchanges config)))
    (entry : JournalEntry) :
    RollbackLost ((entry :: journal).flatMap (JournalEntry.exchanges config)) := by
  rw [List.flatMap_cons, rollbackLost_append]
  exact Or.inr lost

theorem Accounted.cons {counters : Counters σ} {config : ExecutorConfig} {base : Nat}
    {course : Course σ} (accounted : Accounted counters config base course)
    (entry : JournalEntry) : Accounted counters config base (course.cons entry) := by
  unfold Accounted at accounted ⊢
  simp only [Course.cons]
  cases result : course.result with
  | ok progress =>
      rw [result] at accounted
      exact accounted
  | error e =>
      rw [result] at accounted
      obtain ⟨applied, reported, durable, suits, undone⟩ := accounted
      exact ⟨applied, reported, durable, suits, undone.imp id fun lost => lost.cons entry⟩

section Courses

variable {d : Driver σ} {counters : Counters σ} {config : ExecutorConfig} {sql : String}
  {base : Nat}

/-- Whatever a task executes, records one at a time or a chunk, is counted. -/
theorem Transactional.execution (transactional : Transactional d counters) (sql : String)
    (task : Task) : counters.CountedBy (task.execution d sql) := by
  cases task with
  | chunks stretch => exact transactional.many sql stretch.chunk
  | records range index row rest => exact transactional.one sql row

/-- A rollback that fails does not hide how many rows an error reports. -/
theorem appliedRows_afterRollback {e : DbError} {applied : Nat}
    (reported : e.appliedRows = some applied) (rollback : Except DbError Unit) :
    (afterRollback e rollback).appliedRows = some applied := by
  cases rollback <;> exact reported

/-- The error that ends a batch tells what was committed before. -/
theorem Task.Stops.appliedRows {task : Task} {progress : Progress} {trial : Trial} {e : DbError}
    (stops : Task.Stops config progress task trial e) :
    e.appliedRows = some progress.ledger.committed := by
  cases stops with
  | uncommitted task count e rollback => exact appliedRows_afterRollback rfl rollback
  | broken task rollback fatal => exact appliedRows_afterRollback rfl rollback
  | lost task rollback retryable => cases task <;> rfl
  | aborted range index row rest retryable policy => rfl

/-- A batch that a trial ends is accounted for. -/
theorem Transactional.stop (transactional : Transactional d counters) {task : Task}
    {progress : Progress} {conn after : σ} {trial : Trial} {e : DbError}
    (inStep : InStep counters base progress.ledger conn) (suits : progress.ledger.Suits config)
    (made : Trial.Made d config (task.execution d sql) conn trial after)
    (stops : Task.Stops config progress task trial e) :
    Accounted counters config base ⟨[task.entry sql trial], .error e, after⟩ := by
  have counted := transactional.trial (transactional.execution sql task) inStep made
  have nothing : config.commitChunks = false → progress.ledger.committed = 0 := by
    intro mode
    simpa only [Ledger.Suits, mode, Bool.false_eq_true, if_false] using suits
  have undone_or_lost : ∀ {rollback : Except DbError Unit},
      Undone counters base progress.ledger rollback after →
      Trial.rollbackExchange rollback ∈ trial.exchanges config (task.call sql) →
      counters.pending after = 0 ∨
        RollbackLost ([task.entry sql trial].flatMap (JournalEntry.exchanges config)) := by
    intro rollback undone member
    cases rollback with
    | ok => exact Or.inl (undone.pending rfl)
    | error lost =>
        refine Or.inr ⟨lost, ?_⟩
        rw [List.flatMap_singleton]
        exact member
  refine ⟨progress.ledger.committed, stops.appliedRows, ?_, nothing, ?_⟩
  · cases stops <;> exact counted.committed
  · cases stops <;> exact undone_or_lost counted (by simp [Trial.exchanges])

/-- The ledger stays in step through every trial. -/
theorem Transactional.goOn (transactional : Transactional d counters) {task : Task}
    {progress next : Progress} {conn after : σ} {trial : Trial} {tasks : List Task}
    (inStep : InStep counters base progress.ledger conn) (suits : progress.ledger.Suits config)
    (made : Trial.Made d config (task.execution d sql) conn trial after)
    (goesOn : Task.GoesOn config progress task trial tasks next) :
    InStep counters base next.ledger after ∧ next.ledger.Suits config := by
  have counted := transactional.trial (transactional.execution sql task) inStep made
  cases goesOn with
  | applied task count => exact ⟨counted, Ledger.suits_settled suits count⟩
  | single stretch retryable small =>
      exact ⟨counted.inStep_discard, Ledger.suits_discard suits⟩
  | smaller stretch retryable large =>
      exact ⟨counted.inStep_discard, Ledger.suits_discard suits⟩
  | isolated range index row rest retryable policy =>
      exact ⟨counted.inStep_discard, Ledger.suits_discard suits⟩

/-- A course that begins in step with the counters stays so to its end. -/
theorem Transactional.accounted (transactional : Transactional d counters) (tasks : List Task)
    (progress : Progress) (conn : σ) (inStep : InStep counters base progress.ledger conn)
    (suits : progress.ledger.Suits config) :
    Accounted counters config base (course d config sql tasks progress conn) := by
  fun_induction course d config sql tasks progress conn with
  | case1 progress conn => exact ⟨inStep, suits⟩
  | case2 task rest progress conn trial after tried e advanced =>
      exact transactional.stop inStep suits (Trial.made tried) (Task.stops advanced)
  | case3 task rest progress conn trial after tried tasks next advanced inductionHypothesis =>
      have kept := transactional.goOn inStep suits (Trial.made tried) (Task.goesOn advanced)
      exact (inductionHypothesis kept.1 kept.2).cons _

/-- A batch on a connection with nothing pending begins in step. -/
theorem Transactional.accounted_batch (transactional : Transactional d counters)
    (rows : List Row) {conn : σ} (clean : counters.pending conn = 0) :
    Accounted counters config (counters.committed conn) (batchCourse d config sql rows conn) := by
  have inStep : InStep counters (counters.committed conn) Progress.start.ledger conn := ⟨rfl, clean⟩
  have suits : Progress.start.ledger.Suits config := by
    unfold Ledger.Suits
    split <;> rfl
  exact transactional.accounted (Task.ofBatch config rows) Progress.start conn inStep suits

end Courses

/-- The number of rows that a batch reports as applied, by its count or by its error. -/
def reportedRows : Except DbError Nat → Option Nat
  | .ok count => some count
  | .error e => e.appliedRows

/-- With commits, what a course reports is what became durable since it began. -/
theorem Accounted.reported {counters : Counters σ} {config : ExecutorConfig} {base : Nat}
    {course : Course σ} (accounted : Accounted counters config base course)
    (commits : config.commitChunks = true) :
    ∃ reported, reportedRows course.outcome = some reported ∧
      counters.committed course.conn = base + reported := by
  unfold Accounted at accounted
  unfold Course.outcome
  cases result : course.result with
  | error e =>
      rw [result] at accounted
      obtain ⟨applied, reported, durable, -⟩ := accounted
      exact ⟨applied, reported, durable⟩
  | ok progress =>
      rw [result] at accounted
      obtain ⟨inStep, suits⟩ := accounted
      have settled : progress.ledger.pending = 0 := by
        simpa only [Ledger.Suits, commits, if_true] using suits
      refine ⟨progress.ledger.committed, ?_, inStep.committed⟩
      show reportedRows progress.verdict = _
      unfold Progress.verdict Ledger.total
      rw [settled]
      split <;> rfl

/-- What a batch reports is what the database holds. With commits the reported rows are durable
and nothing else is left pending. Without commits nothing becomes durable, and the reported rows are
those of the open transaction. Only a rollback that fails leaves the open transaction unknown; the
rows it should have undone are not reported. -/
theorem reported_rows_match_counters {d : Driver σ} {counters : Counters σ}
    (transactional : Transactional d counters) {config : ExecutorConfig}
    (positive : 0 < config.chunkSize) (sql : String) (rows : List Row) (channel : Channel σ)
    (clean : counters.pending channel.conn = 0) :
    ∃ reported,
      reportedRows (ending (run d config sql rows) channel).1 = some reported ∧
      (config.commitChunks = true →
        counters.committed (ending (run d config sql rows) channel).2.conn =
          counters.committed channel.conn + reported ∧
        (counters.pending (ending (run d config sql rows) channel).2.conn = 0 ∨
          RollbackLost (exchanges d config sql rows channel.conn))) ∧
      (config.commitChunks = false →
        counters.committed (ending (run d config sql rows) channel).2.conn =
          counters.committed channel.conn ∧
        (reported = counters.pending (ending (run d config sql rows) channel).2.conn ∨
          RollbackLost (exchanges d config sql rows channel.conn) ∧ reported = 0)) := by
  obtain ⟨told, ended⟩ := run_ends d sql rows positive channel.conn channel.log
  have accounted : Accounted counters config (counters.committed channel.conn)
      (batchCourse d config sql rows channel.conn) := transactional.accounted_batch rows clean
  rw [exchanges_eq_journal d sql rows positive channel.conn]
  rw [show channel = ⟨channel.conn, channel.log⟩ from rfl, ended]
  simp only [Course.outcome]
  unfold Accounted at accounted
  cases result : (batchCourse d config sql rows channel.conn).result with
  | error e =>
      rw [result] at accounted
      obtain ⟨applied, reported, durable, nothing, undone⟩ := accounted
      refine ⟨applied, reported, fun mode => ⟨durable, undone⟩, fun mode => ?_⟩
      rw [nothing mode] at durable ⊢
      exact ⟨durable, undone.imp Eq.symm fun lost => ⟨lost, rfl⟩⟩
  | ok progress =>
      rw [result] at accounted
      obtain ⟨⟨durable, open_⟩, suits⟩ := accounted
      have reported : reportedRows (Except.ok progress >>= Progress.verdict) =
          some progress.ledger.total := by
        simp only [Bind.bind, Except.bind, Progress.verdict]
        split <;> rfl
      refine ⟨progress.ledger.total, reported, fun mode => ?_, fun mode => ?_⟩
      · simp only [Ledger.Suits, mode, if_true] at suits
        rw [durable, open_, Ledger.total, suits]
        exact ⟨rfl, Or.inl rfl⟩
      · simp only [Ledger.Suits, mode, Bool.false_eq_true, if_false] at suits
        rw [durable, open_, Ledger.total, suits]
        exact ⟨rfl, Or.inl (Nat.zero_add _)⟩

/-! ### Scripted drivers -/

/-- The counters of a scripted driver. -/
def scriptedCounters : Counters ScriptedState := ⟨ScriptedState.pending, ScriptedState.committed⟩

private theorem enter_get (check : ScriptedState → Except DbError Nat) (conn : ScriptedState) :
    (do Scripted.enter (check (← get)) : EStateM DbError ScriptedState Nat) conn =
      Scripted.enter (check conn) conn := rfl

private theorem countedBy_enter (check : ScriptedState → Except DbError Nat) :
    scriptedCounters.CountedBy (do Scripted.enter (check (← get))) := by
  constructor
  · intro conn count after entered
    rw [enter_get] at entered
    cases answer : check conn with
    | ok affected =>
        rw [answer] at entered
        cases entered
        exact ⟨rfl, rfl⟩
    | error e =>
        rw [answer] at entered
        cases entered
  · intro conn e after entered
    rw [enter_get] at entered
    cases answer : check conn with
    | ok affected =>
        rw [answer] at entered
        cases entered
    | error e =>
        rw [answer] at entered
        cases entered
        rfl

/-- The scripted driver keeps its counters, whatever its script says. -/
theorem scripted_transactional (style : ParamStyle) (showRow : Row → String) :
    Transactional (Scripted.driver style showRow) scriptedCounters where
  one sql row := countedBy_enter fun s => Scripted.checkRow showRow s.script row
  many sql rows := countedBy_enter fun s => Scripted.checkChunk showRow s.script rows
  rollback_ok {conn after} undone := by
    simp only [Scripted.driver, Scripted.rollback] at undone
    split at undone <;> cases undone
    exact ⟨rfl, rfl⟩
  rollback_error {conn e after} lost := by
    simp only [Scripted.driver, Scripted.rollback] at lost
    split at lost <;> cases lost
    rfl
  commit_ok {conn after} settled := by
    simp only [Scripted.driver, Scripted.commit] at settled
    split at settled <;> cases settled
    exact ⟨rfl, rfl⟩
  commit_error {conn e after} refused := by
    simp only [Scripted.driver, Scripted.commit] at refused
    split at refused <;> cases refused
    rfl

/-- One record is rejected, and the commit after the chunk behind it fails. -/
theorem reported_rows_match_counters_scripted :
    let d := Scripted.driver .qmark Row.describe
    let config : ExecutorConfig := { chunkSize := 2, failurePolicy := .isolate }
    let rows : List Row := [[.int 1], [.int 2], [.int 3], [.int 4]]
    let script : DriverScript := { bad := [2], commitsBeforeFailure := some 1 }
    let channel : Channel ScriptedState := ⟨ScriptedState.start script, #[]⟩
    Transactional d scriptedCounters ∧ 0 < config.chunkSize ∧
      scriptedCounters.pending channel.conn = 0 ∧
      reportedRows (ending (run d config "insert" rows) channel).1 = some 1 ∧
      scriptedCounters.committed (ending (run d config "insert" rows) channel).2.conn = 1 := by
  intro d config rows script channel
  have transactional := scripted_transactional .qmark Row.describe
  have one : reportedRows (ending (run d config "insert" rows) channel).1 = some 1 := by
    decide +kernel
  obtain ⟨reported, isReported, durable, -⟩ :=
    reported_rows_match_counters transactional (show 0 < config.chunkSize by decide) "insert" rows
      channel rfl
  refine ⟨transactional, by decide, rfl, one, ?_⟩
  rw [(durable rfl).1]
  have same : reported = 1 := Option.some.inj (isReported.symm.trans one)
  rw [same]
  rfl

end SqlBind.Execution
