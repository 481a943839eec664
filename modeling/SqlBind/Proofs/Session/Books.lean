import SqlBind.Proofs.Batch.OneByOne
import SqlBind.Proofs.Table.Merge

/-!
Owns: the books of a session that commits what it writes. Between two operations nothing is pending,
whatever the operations are and however they end.

Main statement: along every sequence of operations the durable rows grow by what the operations
report (`session_books_balance`).
-/

set_option autoImplicit false

namespace SqlBind

open Execution (ending afterRollback Sent Ran Counters Transactional RollbackLost Keeps Trial Task
  Progress reportedRows of_ending_ok of_ending_error ending_bind_ok ending_bind_error
  rollbackLost_append)
open Execution.Trial (rollbackExchange)

variable {σ : Type}

/-! ### Dependable drivers -/

/-- On steady connections commit and rollback work, and no error of a single execution is one of a
batch, which would tell applied rows. -/
structure Dependable (d : Driver σ) (steady : σ → Prop) : Prop where
  commit : ∀ {conn}, steady conn → (ending d.commit conn).1 = .ok ()
  rollback : ∀ {conn}, steady conn → (ending d.rollback conn).1 = .ok ()
  one : ∀ {sql row conn e}, steady conn → (ending (d.executeOne sql row) conn).1 = .error e →
    e.appliedRows = none
  keeps_one : ∀ sql row, Keeps steady (d.executeOne sql row)
  keeps_many : ∀ sql rows, Keeps steady (d.executeMany sql rows)
  keeps_commit : Keeps steady d.commit
  keeps_rollback : Keeps steady d.rollback

/-- An action that keeps a property ends in a state that has it. -/
theorem keeps_ending {τ α : Type} {steady : τ → Prop} {action : EStateM DbError τ α}
    (keeps : Keeps steady action) {state after : τ} {result : Except DbError α}
    (begins : steady state) (ended : ending action state = (result, after)) : steady after := by
  have kept := keeps begins
  rw [ended] at kept
  exact kept

section Drivers

variable {d : Driver σ} {counters : Counters σ} {steady : σ → Prop} {conn after : σ}

theorem Dependable.undone (dependable : Dependable d steady) (begins : steady conn)
    {rollback : Except DbError Unit} (undone : ending d.rollback conn = (rollback, after)) :
    rollback = .ok () ∧ steady after := by
  have works := dependable.rollback begins
  rw [undone] at works
  exact ⟨works, keeps_ending dependable.keeps_rollback begins undone⟩

theorem Dependable.settled (dependable : Dependable d steady) (begins : steady conn)
    {answer : Except DbError Unit} (settled : ending d.commit conn = (answer, after)) :
    answer = .ok () ∧ steady after := by
  have works := dependable.commit begins
  rw [settled] at works
  exact ⟨works, keeps_ending dependable.keeps_commit begins settled⟩

/-! ### Batches -/

theorem Dependable.keeps_execution (dependable : Dependable d steady) (sql : String)
    (task : Task) : Keeps steady (task.execution d sql) := by
  cases task with
  | chunks stretch => exact dependable.keeps_many sql stretch.chunk
  | records range index row rest => exact dependable.keeps_one sql row

theorem not_rollbackLost_nil : ¬ RollbackLost [] := by
  rintro ⟨lost, member⟩
  cases member

theorem not_rollbackLost_cons {first : Exchange} {rest : List Exchange}
    (other : first.call ≠ .rollback ∨ first.answer = .ok 0) (kept : ¬ RollbackLost rest) :
    ¬ RollbackLost (first :: rest) := by
  rintro ⟨lost, member⟩
  rcases List.mem_cons.mp member with rfl | later
  · rcases other with call | answer
    · exact call rfl
    · cases answer
  · exact kept ⟨lost, later⟩

/-- A trial on a dependable driver leaves it steady, and no rollback of it fails. -/
theorem Dependable.trial (dependable : Dependable d steady) {config : ExecutorConfig}
    {sql : String} {task : Task} {trial : Trial} (begins : steady conn)
    (made : Trial.Made d config (task.execution d sql) conn trial after) :
    steady after ∧ ¬ RollbackLost (trial.exchanges config (task.call sql)) := by
  have call : task.call sql ≠ .rollback := by
    cases task <;> exact Call.noConfusion
  have keeps : Keeps steady (task.execution d sql) := dependable.keeps_execution sql task
  cases made with
  | pending mode executed =>
      refine ⟨keeps_ending keeps begins executed, ?_⟩
      simp only [Trial.exchanges, mode]
      exact not_rollbackLost_cons (Or.inl call) not_rollbackLost_nil
  | committed mode executed settled =>
      refine ⟨(dependable.settled (keeps_ending keeps begins executed) settled).2, ?_⟩
      simp only [Trial.exchanges, mode]
      exact not_rollbackLost_cons (Or.inl call)
        (not_rollbackLost_cons (Or.inr rfl) not_rollbackLost_nil)
  | uncommitted mode executed refused undone =>
      have works := dependable.settled (keeps_ending keeps begins executed) refused
      cases works.1
  | failed executed undone =>
      obtain ⟨rfl, kept⟩ := dependable.undone (keeps_ending keeps begins executed) undone
      exact ⟨kept, not_rollbackLost_cons (Or.inl call)
        (not_rollbackLost_cons (Or.inr rfl) not_rollbackLost_nil)⟩

/-- So does a whole course. -/
theorem Dependable.course (dependable : Dependable d steady) {config : ExecutorConfig}
    {sql : String} (tasks : List Task) (progress : Progress) (begins : steady conn) :
    steady (Execution.course d config sql tasks progress conn).conn ∧
      ¬ RollbackLost ((Execution.course d config sql tasks progress conn).journal.flatMap
        (Execution.JournalEntry.exchanges config)) := by
  fun_induction Execution.course d config sql tasks progress conn with
  | case1 progress conn => exact ⟨begins, not_rollbackLost_nil⟩
  | case2 task rest progress conn trial after tried e advanced =>
      rw [List.flatMap_singleton]
      exact dependable.trial begins (Trial.made tried)
  | case3 task rest progress conn trial after tried tasks next advanced inductionHypothesis =>
      obtain ⟨kept, noneHere⟩ := dependable.trial begins (Trial.made tried)
      obtain ⟨keptLater, noneLater⟩ := inductionHypothesis kept
      simp only [Execution.Course.cons, List.flatMap_cons]
      rw [rollbackLost_append, not_or]
      exact ⟨keptLater, noneHere, noneLater⟩

/-! ### What is reported -/

/-- The rows that an operation reports as applied; an error that tells none reports none. -/
def reported (result : Except DbError Nat) : Nat := (reportedRows result).getD 0

theorem reported_error {e : DbError} (quiet : e.appliedRows = none) : reported (.error e) = 0 := by
  rw [reported, reportedRows, quiet]
  rfl

/-- The connection after an operation that began with nothing pending: nothing is pending again, and
what was reported is durable. -/
structure Balanced (counters : Counters σ) (steady : σ → Prop) (conn : σ)
    (result : Except DbError Nat) (after : σ) : Prop where
  steady : steady after
  pending : counters.pending after = 0
  committed : counters.committed after = counters.committed conn + reported result

/-- Books stay balanced if nothing was done and nothing reported. -/
theorem Balanced.unchanged (begins : steady conn) (clean : counters.pending conn = 0)
    {result : Except DbError Nat} (nothing : reported result = 0) :
    Balanced counters steady conn result conn :=
  ⟨begins, clean, by rw [nothing, Nat.add_zero]⟩

/-- A batch with commits. -/
theorem balanced_batch (transactional : Transactional d counters)
    (dependable : Dependable d steady) {config : ExecutorConfig}
    (commits : config.commitChunks = true) (sql : String) (rows : List Row) (begins : steady conn)
    (clean : counters.pending conn = 0) :
    Balanced counters steady conn (Execution.batchCourse d config sql rows conn).outcome
      (Execution.batchCourse d config sql rows conn).conn := by
  have accounted : Execution.Accounted counters config (counters.committed conn)
      (Execution.batchCourse d config sql rows conn) := transactional.accounted_batch rows clean
  obtain ⟨kept, none⟩ : steady (Execution.batchCourse d config sql rows conn).conn ∧ ¬ RollbackLost
      ((Execution.batchCourse d config sql rows conn).journal.flatMap
        (Execution.JournalEntry.exchanges config)) := dependable.course _ Progress.start begins
  unfold Execution.Accounted at accounted
  simp only [Execution.Course.outcome]
  cases result : (Execution.batchCourse d config sql rows conn).result with
  | error e =>
      rw [result] at accounted
      obtain ⟨applied, tells, durable, -, undone⟩ := accounted
      refine ⟨kept, undone.resolve_right none, ?_⟩
      rw [durable]
      show _ = _ + e.appliedRows.getD 0
      rw [tells]
      rfl
  | ok progress =>
      rw [result] at accounted
      obtain ⟨⟨durable, open_⟩, suits⟩ := accounted
      simp only [Execution.Ledger.Suits, commits, if_true] at suits
      have tells : reported (Except.ok progress >>= Progress.verdict) =
          progress.ledger.committed := by
        have total : progress.ledger.total = progress.ledger.committed := by
          rw [Execution.Ledger.total, suits, Nat.add_zero]
        simp only [Bind.bind, Except.bind, Progress.verdict]
        split <;> exact total
      exact ⟨kept, open_.trans suits, durable.trans (by rw [tells])⟩

private theorem balanced_ran_error (transactional : Transactional d counters)
    (dependable : Dependable d steady) {sql : String} {row : Row} {made : List Exchange}
    {result : Except DbError Nat} (begins : steady conn)
    (ran : Ran d sql row conn made result after) {e : DbError} (fails : result = .error e) :
    Balanced counters steady conn (.error e) after := by
  cases ran with
  | succeeded executed => cases fails
  | failed executed undone =>
      have answer := congrArg Prod.fst executed
      have quiet := dependable.one begins answer
      have middle := keeps_ending (dependable.keeps_one _ _) begins executed
      obtain ⟨rfl, kept⟩ := dependable.undone middle undone
      cases fails
      have same := (transactional.one _ _).error (of_ending_error executed)
      have back := transactional.rollback_ok (of_ending_ok undone)
      refine ⟨kept, back.1, ?_⟩
      rw [back.2, same]
      exact (congrArg (_ + ·) (reported_error quiet)).symm

/-- A single execution and the commit after it. -/
theorem balanced_ran_ok (transactional : Transactional d counters)
    (dependable : Dependable d steady) {sql : String} {row : Row} {made : List Exchange}
    {result : Except DbError Nat} {middle : σ} (begins : steady conn)
    (clean : counters.pending conn = 0) (ran : Ran d sql row conn made result middle) {count : Nat}
    (succeeds : result = .ok count) {answer : Except DbError Unit}
    (settled : ending d.commit middle = (answer, after)) :
    answer = .ok () ∧ Balanced counters steady conn (.ok count) after := by
  cases ran with
  | failed executed undone => cases succeeds
  | succeeded executed =>
      cases succeeds
      have kept := keeps_ending (dependable.keeps_one _ _) begins executed
      obtain ⟨rfl, keptAfter⟩ := dependable.settled kept settled
      have added := (transactional.one _ _).ok (of_ending_ok executed)
      have durable := transactional.commit_ok (of_ending_ok settled)
      refine ⟨rfl, keptAfter, durable.2, ?_⟩
      rw [durable.1, added.1, added.2, clean, Nat.zero_add]
      rfl

/-! ### Merges -/

/-- Sending chunks leaves a dependable driver steady, and no rollback of it fails. -/
theorem Dependable.sent (dependable : Dependable d steady) {sql : String}
    {chunkSize start applied : Nat} {rows : List Row} {made : List Exchange}
    {result : Except DbError Nat} (begins : steady conn)
    (sent : Sent d sql chunkSize start applied rows conn made result after) :
    steady after ∧ ¬ RollbackLost made := by
  induction sent with
  | done start applied conn => exact ⟨begins, not_rollbackLost_nil⟩
  | sent nonempty executed rest inductionHypothesis =>
      have kept := keeps_ending (dependable.keeps_many _ _) begins executed
      obtain ⟨ends, none⟩ := inductionHypothesis kept
      exact ⟨ends, not_rollbackLost_cons (Or.inl Call.noConfusion) none⟩
  | failed nonempty executed undone =>
      have kept := keeps_ending (dependable.keeps_many _ _) begins executed
      obtain ⟨rfl, ends⟩ := dependable.undone kept undone
      exact ⟨ends, not_rollbackLost_cons (Or.inl Call.noConfusion)
        (not_rollbackLost_cons (Or.inr rfl) not_rollbackLost_nil)⟩

private theorem appliedRows_sent {sql : String} {chunkSize start applied : Nat} {rows : List Row}
    {made : List Exchange} {result : Except DbError Nat}
    (sent : Sent d sql chunkSize start applied rows conn made result after) {e : DbError}
    (fails : result = .error e) : e.appliedRows = some 0 := by
  induction sent with
  | done start applied conn => cases fails
  | sent nonempty executed rest inductionHypothesis => exact inductionHypothesis fails
  | failed nonempty executed undone =>
      cases fails
      exact Execution.appliedRows_afterRollback rfl _

def MergeOutcome.affected (outcome : MergeOutcome) : Nat := outcome.deleted + outcome.inserted

private theorem balanced_sent_error (transactional : Transactional d counters)
    (dependable : Dependable d steady) {sql : String} {chunkSize start applied : Nat}
    {rows : List Row} {made : List Exchange} {result : Except DbError Nat} {e : DbError}
    (begins : steady conn)
    (sent : Sent d sql chunkSize start applied rows conn made result after)
    (fails : result = .error e) : Balanced counters steady conn (.error e) after := by
  obtain ⟨ends, none⟩ := dependable.sent begins sent
  have reverted := transactional.sent_error sent fails none
  have nothing : reported (.error e) = 0 := by
    rw [reported, Execution.reportedRows, appliedRows_sent sent fails]
    rfl
  exact ⟨ends, reverted.pending, by rw [reverted.committed, nothing, Nat.add_zero]⟩

private theorem balanced_merging (transactional : Transactional d counters)
    (dependable : Dependable d steady) {config : ExecutorConfig}
    (commits : config.commitChunks = true) {t : Table} {style : ParamStyle}
    {unique : List String} {records : List KeyedRecord} {made : List Exchange}
    {result : Except DbError MergeOutcome} (begins : steady conn)
    (clean : counters.pending conn = 0)
    (merging : Table.Merging d config t style unique conn records made result after) :
    Balanced counters steady conn (result.map MergeOutcome.affected) after := by
  cases merging with
  | refused quiet => exact .unchanged begins clean (reported_error quiet)
  | empty => exact .unchanged begins clean rfl
  | sent fits sending =>
      cases sending with
      | undeleted deletes => exact balanced_sent_error transactional dependable begins deletes rfl
      | uninserted deletes inserts =>
          have kept := (dependable.sent begins deletes).1
          have failed := balanced_sent_error transactional dependable kept inserts rfl
          refine ⟨failed.steady, failed.pending, ?_⟩
          rw [failed.committed, (transactional.sent_ok deletes rfl).1]
          rfl
      | @sent made later ends deleted inserted middle last after result deletes inserts settles =>
          have kept := (dependable.sent (dependable.sent begins deletes).1 inserts).1
          have removed := transactional.sent_ok deletes rfl
          have added := transactional.sent_ok inserts rfl
          cases settles with
          | left mode =>
              rw [commits] at mode
              cases mode
          | committed mode settled =>
              obtain ⟨-, ends⟩ := dependable.settled kept settled
              have durable := transactional.commit_ok (of_ending_ok settled)
              refine ⟨ends, durable.2, ?_⟩
              show _ = counters.committed conn + (deleted + inserted)
              rw [durable.1]
              omega
          | uncommitted mode refused undone =>
              cases (dependable.settled kept refused).1

end Drivers

/-! ### Errors before any call -/

private theorem quiet_compile (sql : String) (style : ParamStyle) : Quiet (compile sql style) := by
  intro e fails
  unfold compile at fails
  split at fails
  · cases fails
    rfl
  · cases fails

namespace Statement

variable {s : Statement}

private theorem quiet_bindKeyed (record : KeyedRecord) (index : Option Nat) :
    Quiet (s.bindKeyed record index) :=
  Table.quiet_valuesAt s.bindKeys record index

private theorem quiet_bindPositional (row : Row) (index : Option Nat) :
    Quiet (s.bindPositional row index) := by
  intro e fails
  simp only [bindPositional] at fails
  split at fails
  · cases fails
  · split at fails
    · cases fails
    · split at fails
      · cases fails
      · cases fails
        rfl

private theorem quiet_bind (record : Record) : Quiet (s.bind record) := by
  cases record with
  | keyed fields => exact quiet_bindKeyed fields none
  | positional row => exact quiet_bindPositional row none

private theorem quiet_bindBatch (batch : Batch) : Quiet (s.bindBatch batch) := by
  cases batch with
  | keyed records => exact quiet_bindEach quiet_bindKeyed 0 records
  | positional rows => exact quiet_bindEach quiet_bindPositional 0 rows

end Statement

/-! ### Sessions -/

/-- A session that commits what it writes, with nothing pending. -/
structure Tidy (d : Driver σ) (counters : Counters σ) (steady : σ → Prop) (s : Session σ) :
    Prop where
  driver : s.driver = d
  autocommit : s.config.autocommit = true
  commitChunks : s.config.executor.commitChunks = true
  sound : s.Sound
  steady : steady s.channel.conn
  pending : counters.pending s.channel.conn = 0

private theorem Session.ending_autocommit {s : Session σ} (commits : s.config.autocommit = true) :
    ending Session.autocommit s = ending Session.commit s := by
  show ending (if s.config.autocommit then Session.commit else pure ()) s = _
  rw [if_pos commits]

section Sessions

variable {d : Driver σ} {counters : Counters σ} {steady : σ → Prop} {s after : Session σ}
  {result : Except DbError Nat}

/-- What an operation leaves of a tidy session is tidy, if its connection is. -/
theorem Tidy.continues (tidy : Tidy d counters steady s) (continues : s.Continues after)
    (kept : steady after.channel.conn) (clean : counters.pending after.channel.conn = 0) :
    Tidy d counters steady after where
  driver := continues.driver.trans tidy.driver
  autocommit := (congrArg SessionConfig.autocommit continues.config).trans tidy.autocommit
  commitChunks :=
    (congrArg (fun config => config.executor.commitChunks) continues.config).trans tidy.commitChunks
  sound := continues.sound tidy.sound
  steady := kept
  pending := clean

/-- From every tidy session on, the action leaves the books balanced. -/
def Booked (d : Driver σ) (counters : Counters σ) (steady : σ → Prop)
    (action : SessionAction σ Nat) : Prop :=
  ∀ s, Tidy d counters steady s →
    s.Continues (ending action s).2 ∧
      Balanced counters steady s.channel.conn (ending action s).1 (ending action s).2.channel.conn

namespace Booked

theorem of_ending {action : SessionAction σ Nat} {s after : Session σ}
    {result : Except DbError Nat} (ended : ending action s = (result, after))
    (continues : s.Continues after)
    (balanced : Balanced counters steady s.channel.conn result after.channel.conn) :
    s.Continues (ending action s).2 ∧ Balanced counters steady s.channel.conn (ending action s).1
      (ending action s).2.channel.conn := by
  rw [ended]
  exact ⟨continues, balanced⟩

/-- An action may begin with a refusal of its own. -/
theorem refuse {refused : Bool} {e : DbError} {next : SessionAction σ Nat}
    (quiet : e.appliedRows = none) (rest : Booked d counters steady next) :
    Booked d counters steady (do
      if refused then throw e
      next) := by
  cases refused with
  | false => exact rest
  | true =>
      intro s tidy
      exact ⟨.refl s, .unchanged tidy.steady tidy.pending (reported_error quiet)⟩

theorem nothing : Booked d counters steady (pure 0) := by
  intro s tidy
  exact ⟨.refl s, .unchanged tidy.steady tidy.pending rfl⟩

/-- A check that fails reports no rows. -/
theorem check {α : Type} {checked : Except DbError α} {next : α → SessionAction σ Nat}
    (quiet : Quiet checked) (rest : ∀ value, checked = .ok value →
      Booked d counters steady (next value)) :
    Booked d counters steady (Session.check checked >>= next) := by
  intro s tidy
  cases answered : checked with
  | error e =>
      exact of_ending (ending_bind_error rfl) (.refl s)
        (.unchanged tidy.steady tidy.pending (reported_error (quiet e answered)))
  | ok value => exact rest value answered s tidy

theorem compile {sql : String} {next : Statement → SessionAction σ Nat}
    (rest : ∀ statement, Booked d counters steady (next statement)) :
    Booked d counters steady (Session.compile sql >>= next) := by
  intro s tidy
  have compiled := Session.ending_compile s tidy.sound.faithful sql
  have continues := Session.continues_compile s sql
  cases answered : SqlBind.compile sql s.style with
  | error e =>
      rw [answered] at compiled
      have nothing := reported_error (quiet_compile sql s.style e answered)
      exact of_ending (ending_bind_error compiled) continues
        (.unchanged tidy.steady tidy.pending nothing)
  | ok statement =>
      rw [answered] at compiled
      obtain ⟨goesOn, balanced⟩ :=
        rest statement _ (tidy.continues continues tidy.steady tidy.pending)
      rw [ending_bind_ok compiled]
      exact ⟨continues.trans goesOn, balanced⟩

section Drivers

variable (transactional : Transactional d counters) (dependable : Dependable d steady)

include transactional dependable

/-- With nothing pending a commit changes no count. -/
theorem commit : Booked d counters steady (do Session.commit; return 0) := by
  intro s tidy
  obtain rfl := tidy.driver
  cases settled : ending s.driver.commit s.channel.conn with
  | mk answer conn =>
      obtain ⟨rfl, kept⟩ := dependable.settled tidy.steady settled
      have durable := transactional.commit_ok (of_ending_ok settled)
      have ended : ending Session.commit s = (.ok (), s.onConn conn) :=
        Session.ending_onChannel (Channel.ending_perform settled s.channel.log)
      refine of_ending (ending_bind_ok ended) (Session.continues_onConn s conn) ?_
      refine ⟨kept, durable.2, durable.1.trans ?_⟩
      rw [tidy.pending]
      rfl

/-- With nothing pending a rollback changes no count. -/
theorem rollback : Booked d counters steady (do Session.rollback; return 0) := by
  intro s tidy
  obtain rfl := tidy.driver
  cases undone : ending s.driver.rollback s.channel.conn with
  | mk answer conn =>
      obtain ⟨rfl, kept⟩ := dependable.undone tidy.steady undone
      have back := transactional.rollback_ok (of_ending_ok undone)
      have ended : ending Session.rollback s = (.ok (), s.onConn conn) :=
        Session.ending_onChannel (Channel.ending_perform undone s.channel.log)
      exact of_ending (ending_bind_ok ended) (Session.continues_onConn s conn)
        ⟨kept, back.1, back.2⟩

theorem executeOnce (sql : String) (row : Row) :
    Booked d counters steady (Session.executeOnce sql row) := by
  intro s tidy
  obtain rfl := tidy.driver
  obtain ⟨made, result, middle, makes, ran⟩ :=
    Execution.runOne_makes s.driver sql row s.channel.conn
  obtain ⟨told, ended⟩ := makes.plain s.channel.log
  have first : ending (Session.onChannel fun d => Execution.runOne d sql row) s =
      (result, { s with channel := ⟨middle, told⟩ }) := Session.ending_onChannel ended
  cases result with
  | error e =>
      exact of_ending (ending_bind_error first) ⟨rfl, rfl, rfl, id⟩
        (balanced_ran_error transactional dependable tidy.steady ran rfl)
  | ok count =>
      cases settled : ending s.driver.commit middle with
      | mk answer conn =>
          obtain ⟨rfl, balanced⟩ :=
            balanced_ran_ok transactional dependable tidy.steady tidy.pending ran rfl settled
          let executed : Session σ := { s with channel := ⟨middle, told⟩ }
          have commits : ending Session.autocommit executed = (.ok (), executed.onConn conn) := by
            rw [Session.ending_autocommit (s := executed) tidy.autocommit]
            exact Session.ending_onChannel (Channel.ending_perform settled told)
          have whole : ending (Session.executeOnce sql row) s =
              (.ok count, executed.onConn conn) :=
            (ending_bind_ok first).trans (ending_bind_ok commits)
          exact of_ending whole ⟨rfl, rfl, rfl, id⟩ balanced

theorem sendBatch (sql : String) (rows : List Row) :
    Booked d counters steady (do
      let config := (← get).config.executor
      Session.onChannel fun d => Execution.run d config sql rows) := by
  intro s tidy
  obtain rfl := tidy.driver
  obtain ⟨told, ended⟩ := Execution.run_ends s.driver sql rows tidy.sound.positive s.channel.conn
    s.channel.log
  have balanced := balanced_batch transactional dependable tidy.commitChunks sql rows tidy.steady
    tidy.pending
  have whole : ending (Session.onChannel fun d => Execution.run d s.config.executor sql rows) s =
      ((Execution.batchCourse s.driver s.config.executor sql rows s.channel.conn).outcome,
        { s with channel := ⟨(Execution.batchCourse s.driver s.config.executor sql rows
          s.channel.conn).conn, told⟩ }) := Session.ending_onChannel ended
  exact of_ending whole ⟨rfl, rfl, rfl, id⟩ balanced

/-- A merge leaves the books balanced: its rows are committed together or not at all. -/
theorem merge {text : String} {t : Table} (named : Table.named text = .ok t)
    (records : List KeyedRecord) (unique : List String) :
    Booked d counters steady (do
      let outcome ← t.merge records unique
      return outcome.affected) := by
  intro s tidy
  obtain rfl := tidy.driver
  obtain ⟨made, result, after, makes, continues, merging⟩ :=
    Table.merge_makes tidy.sound (Table.unmarked_named named) records unique
  obtain ⟨told, ended⟩ := makes.ends
  have balanced := balanced_merging transactional dependable tidy.commitChunks tidy.steady
    tidy.pending merging
  cases result with
  | error e => exact of_ending (ending_bind_error ended) (continues.logging told) balanced
  | ok outcome => exact of_ending (ending_bind_ok ended) (continues.logging told) balanced

end Drivers

end Booked

/-! ### Operations -/

/-- What can be done with a session, tables by their names. -/
inductive Operation where
  | execute (sql : String) (args : Args)
  | write (sql : String) (record : Record)
  | writeMany (sql : String) (batch : Batch)
  | insertOne (table : String) (record : KeyedRecord)
  | insertMany (table : String) (records : List KeyedRecord)
  | update (table : String) (condition changes : KeyedRecord)
  | delete (table : String) (condition : KeyedRecord)
  | deleteAll (table : String)
  | merge (table : String) (records : List KeyedRecord) (unique : List String)
  | commit
  | rollback

namespace Operation

/-- An operation with the rows that it affects for its result. -/
def run : Operation → SessionAction σ Nat
  | execute sql args => Session.execute sql args
  | write sql record => Session.write sql record
  | writeMany sql batch => Session.writeMany sql batch
  | insertOne table record => do (← Session.check (Table.named table)).insertOne record
  | insertMany table records => do (← Session.check (Table.named table)).insertMany records
  | update table condition changes => do
    (← Session.check (Table.named table)).update condition changes
  | delete table condition => do (← Session.check (Table.named table)).delete condition
  | deleteAll table => do (← Session.check (Table.named table)).deleteAll
  | merge table records unique => do
    let t ← Session.check (Table.named table)
    let outcome ← t.merge records unique
    return outcome.affected
  | commit => do Session.commit; return 0
  | rollback => do Session.rollback; return 0

/-- Works off the operations in order, whatever becomes of each. -/
def perform : List Operation → Session σ → List (Except DbError Nat) × Session σ
  | [], s => ([], s)
  | operation :: rest, s =>
    let (result, s) := ending operation.run s
    let (results, s) := perform rest s
    (result :: results, s)

end Operation

section Operations

variable (transactional : Transactional d counters) (dependable : Dependable d steady)

include transactional dependable

theorem booked_write (sql : String) (record : Record) :
    Booked d counters steady (Session.write sql record) := by
  apply Booked.compile
  intro statement
  apply Booked.check (Statement.quiet_bind record)
  intro row _
  exact Booked.executeOnce transactional dependable statement.sql row

/-- A batch leaves the books balanced, however much of it was applied. -/
theorem booked_writeMany (sql : String) (batch : Batch) :
    Booked d counters steady (Session.writeMany sql batch) := by
  unfold Session.writeMany
  by_cases empty : batch.isEmpty = true
  · simp only [empty, if_true]
    intro s tidy
    exact ⟨⟨rfl, rfl, rfl, id⟩, .unchanged tidy.steady tidy.pending rfl⟩
  · simp only [empty]
    apply Booked.compile
    intro statement
    apply Booked.check (Statement.quiet_bindBatch batch)
    intro rows _
    exact Booked.sendBatch transactional dependable statement.sql rows

private theorem booked_execute (sql : String) (args : Args) :
    Booked d counters steady (Session.execute sql args) := by
  cases args with
  | none => exact Booked.executeOnce transactional dependable sql []
  | many batch => exact booked_writeMany transactional dependable sql batch
  | one record =>
      by_cases empty : record.isEmpty = true
      · simp only [Session.execute, empty, if_true]
        exact Booked.executeOnce transactional dependable sql []
      · simp only [Session.execute, empty]
        exact booked_write transactional dependable sql record

private theorem booked_insertOne (t : Table) (record : KeyedRecord) :
    Booked d counters steady (t.insertOne record) := by
  apply Booked.refuse rfl
  apply Booked.check (Table.quiet_columns _)
  intro names _
  exact booked_write transactional dependable _ _

private theorem booked_insertMany (t : Table) (records : List KeyedRecord) :
    Booked d counters steady (t.insertMany records) := by
  cases records with
  | nil => exact Booked.nothing
  | cons first rest =>
      apply Booked.refuse rfl
      apply Booked.check (Table.quiet_columns _)
      intro names _
      apply Booked.check (Table.quiet_project _ _)
      intro rows _
      exact booked_writeMany transactional dependable _ _

private theorem booked_update (t : Table) (condition changes : KeyedRecord) :
    Booked d counters steady (t.update condition changes) := by
  apply Booked.refuse rfl
  apply Booked.check (Table.quiet_columns _)
  intro changed _
  apply Booked.check (Table.quiet_columns _)
  intro conditioned _
  exact booked_write transactional dependable _ _

private theorem booked_delete (t : Table) (condition : KeyedRecord) :
    Booked d counters steady (t.delete condition) := by
  apply Booked.refuse rfl
  apply Booked.check (Table.quiet_columns _)
  intro conditioned _
  exact booked_write transactional dependable _ _

private theorem booked_run (operation : Operation) : Booked d counters steady operation.run := by
  cases operation with
  | execute sql args => exact booked_execute transactional dependable sql args
  | write sql record => exact booked_write transactional dependable sql record
  | writeMany sql batch => exact booked_writeMany transactional dependable sql batch
  | commit => exact Booked.commit transactional dependable
  | rollback => exact Booked.rollback transactional dependable
  | deleteAll table =>
      apply Booked.check (Table.quiet_named table)
      intro t _
      exact booked_execute transactional dependable _ _
  | insertOne table record =>
      apply Booked.check (Table.quiet_named table)
      intro t _
      exact booked_insertOne transactional dependable t record
  | insertMany table records =>
      apply Booked.check (Table.quiet_named table)
      intro t _
      exact booked_insertMany transactional dependable t records
  | update table condition changes =>
      apply Booked.check (Table.quiet_named table)
      intro t _
      exact booked_update transactional dependable t condition changes
  | delete table condition =>
      apply Booked.check (Table.quiet_named table)
      intro t _
      exact booked_delete transactional dependable t condition
  | merge table records unique =>
      apply Booked.check (Table.quiet_named table)
      intro t named
      exact Booked.merge transactional dependable named records unique

private theorem perform_balances (operations : List Operation) (tidy : Tidy d counters steady s) :
    Tidy d counters steady (Operation.perform operations s).2 ∧
      counters.committed (Operation.perform operations s).2.channel.conn =
        counters.committed s.channel.conn +
          ((Operation.perform operations s).1.map reported).sum := by
  induction operations generalizing s with
  | nil => exact ⟨tidy, rfl⟩
  | cons operation rest inductionHypothesis =>
      -- However the operation ended, it left a tidy session for the rest.
      obtain ⟨continues, balanced⟩ := booked_run transactional dependable operation s tidy
      obtain ⟨ends, durable⟩ :=
        inductionHypothesis (tidy.continues continues balanced.steady balanced.pending)
      refine ⟨ends, ?_⟩
      show counters.committed (Operation.perform rest (ending operation.run s).2).2.channel.conn =
        counters.committed s.channel.conn + (reported (ending operation.run s).1 +
          ((Operation.perform rest (ending operation.run s).2).1.map reported).sum)
      rw [durable, balanced.committed]
      omega

end Operations

/-- A session that commits its writes and its chunks, on a driver whose commit and rollback work.
After every sequence of operations nothing is pending, and the durable rows have grown by what the
operations reported. -/
theorem session_books_balance (transactional : Transactional d counters)
    (dependable : Dependable d steady) {config : SessionConfig} {conn : σ}
    (opened : Session.withConfig d conn config = .ok s) (autocommit : config.autocommit = true)
    (commits : config.executor.commitChunks = true) (begins : steady conn)
    (clean : counters.pending conn = 0) (operations : List Operation) :
    counters.pending (Operation.perform operations s).2.channel.conn = 0 ∧
      counters.committed (Operation.perform operations s).2.channel.conn =
        counters.committed conn + ((Operation.perform operations s).1.map reported).sum := by
  have sound := Session.sound_withConfig opened
  obtain ⟨-, rfl⟩ := Session.withConfig_ok opened
  have tidy : Tidy d counters steady _ := ⟨rfl, autocommit, commits, sound, begins, clean⟩
  obtain ⟨ends, durable⟩ := perform_balances transactional dependable operations tidy
  exact ⟨ends.pending, durable⟩

end Sessions

/-! ### Scripted drivers -/

private theorem appliedRows_of_database {e : DbError} (rejected : e.isDatabaseError = true) :
    e.appliedRows = none := by
  cases e with
  | database code message report => rfl
  | _ => cases rejected

/-- A scripted driver that only rejects is dependable. -/
theorem dependable_scripted {script : DriverScript} (onlyRejects : Execution.OnlyRejects script)
    (style : ParamStyle) (showRow : Row → String) :
    Dependable (Scripted.driver style showRow) (fun conn => conn.script = script) := by
  have rowWise : ∀ sql, Execution.RowWise (Scripted.driver style showRow) sql
      (Scripted.checkRow showRow script) (fun conn => conn.script = script) :=
    onlyRejects.rowWise style
  exact
    { commit := (rowWise "").commit
      rollback := (rowWise "").rollback
      one := by
        intro sql row conn e same fails
        rw [(rowWise sql).one row same] at fails
        exact appliedRows_of_database ((rowWise sql).rejection fails)
      keeps_one := fun sql => (rowWise sql).keeps_one
      keeps_many := fun sql => (rowWise sql).keeps_many
      keeps_commit := (rowWise "").keeps_commit
      keeps_rollback := (rowWise "").keeps_rollback }

/-- Single writes, a batch with a rejected record and a merge, in turn. -/
theorem session_books_balance_scripted :
    let script : DriverScript := { bad := [2] }
    let d := Scripted.driver .dollar Row.describe
    let config : SessionConfig :=
      { executor := { chunkSize := 2, failurePolicy := .isolate }, autocommit := true }
    let conn := ScriptedState.start script
    let s : Session ScriptedState := ⟨d, config, Compiler.withCache .dollar 0, ⟨conn, #[]⟩⟩
    let record : Int64 → KeyedRecord := fun i => .ofList [("a", .int i), ("b", .int (i + 10))]
    let operations : List Operation :=
      [.execute "DELETE FROM t" .none, .insertMany "t" [record 1, record 2, record 3],
        .delete "t" (record 2), .merge "t" [record 4] ["b"], .commit]
    Transactional d Execution.scriptedCounters ∧
      Dependable d (fun conn => conn.script = script) ∧
      Session.withConfig d conn config = .ok s ∧ config.autocommit = true ∧
      config.executor.commitChunks = true ∧ conn.script = script ∧
      Execution.scriptedCounters.pending conn = 0 ∧
      (Operation.perform operations s).1.map reported = [1, 2, 0, 2, 0] ∧
      Execution.scriptedCounters.committed (Operation.perform operations s).2.channel.conn =
        Execution.scriptedCounters.committed conn + 5 := by
  intro script d config conn s record operations
  have transactional : Transactional d Execution.scriptedCounters :=
    Execution.scripted_transactional .dollar Row.describe
  have dependable : Dependable d (fun conn => conn.script = script) :=
    dependable_scripted ⟨rfl, rfl, rfl, rfl⟩ .dollar Row.describe
  have opened : Session.withConfig d conn config = .ok s := rfl
  have reports : (Operation.perform operations s).1.map reported = [1, 2, 0, 2, 0] := by
    decide +kernel
  obtain ⟨-, durable⟩ := session_books_balance transactional dependable opened
    (show config.autocommit = true by rfl) (show config.executor.commitChunks = true by rfl)
    (show conn.script = script by rfl) rfl operations
  rw [reports] at durable
  exact ⟨transactional, dependable, opened, rfl, rfl, rfl, rfl, reports, durable⟩

end SqlBind
