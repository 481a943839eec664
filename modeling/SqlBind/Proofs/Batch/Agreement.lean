import SqlBind.Proofs.Batch.Course

/-!
Owns: the proof that a batch runs as its course says. Nothing here depends on what the log holds,
so actions are compared by how they end on a connection (`Ends`), with one rule for each way of
combining them.

Main statements: `run` ends as the course of its batch does (`run_ends`), and the calls that reach
the driver are those of the journal, in order (`exchanges_eq_journal`).
-/

set_option autoImplicit false

namespace SqlBind.Execution

variable {σ α β : Type}

/-! ### Actions whatever the log holds -/

/-- Whatever the log holds, `action` on `conn` ends in `result` and leaves `after`. -/
def Ends (action : Action σ α) (conn : σ) (result : Except DbError α) (after : σ) : Prop :=
  ∀ log, ∃ told, ending action ⟨conn, log⟩ = (result, ⟨after, told⟩)

namespace Ends

theorem pure (value : α) (conn : σ) : Ends (Pure.pure value) conn (.ok value) conn := by
  intro log
  exact ⟨log, rfl⟩

theorem throw (e : DbError) (conn : σ) :
    Ends (MonadExcept.throw e : Action σ α) conn (.error e) conn := by
  intro log
  exact ⟨log, rfl⟩

/-- Actions in a row end as the last of them does. -/
theorem bind {action : Action σ α} {next : α → Action σ β} {conn middle after : σ} {value : α}
    {result : Except DbError β} (first : Ends action conn (.ok value) middle)
    (second : Ends (next value) middle result after) :
    Ends (action >>= next) conn result after := by
  intro log
  obtain ⟨told, first⟩ := first log
  obtain ⟨later, second⟩ := second told
  exact ⟨later, (ending_bind_ok first).trans second⟩

/-- What follows a failed action is not run. -/
theorem bind_error {action : Action σ α} {next : α → Action σ β} {conn after : σ} {e : DbError}
    (first : Ends action conn (.error e) after) :
    Ends (action >>= next) conn (.error e) after := by
  intro log
  obtain ⟨told, first⟩ := first log
  exact ⟨told, ending_bind_error first⟩

theorem emit (event : Log.Event) (conn : σ) : Ends (Channel.emit event) conn (.ok ()) conn := by
  intro log
  exact ⟨log.push event, rfl⟩

/-- An attempt ends well whatever the driver answers; the answer is its value. -/
theorem attempt (call : EStateM DbError σ α) (conn : σ) :
    Ends (Channel.attempt call) conn (.ok (ending call conn).1) (ending call conn).2 := by
  intro log
  refine ⟨log, ?_⟩
  simp only [ending, Channel.attempt]
  cases call conn <;> rfl

theorem rollBack (d : Driver σ) (ledger : Ledger) (conn : σ) :
    Ends (Execution.rollBack d ledger) conn (.ok (ending d.rollback conn).1)
      (ending d.rollback conn).2 := by
  unfold Execution.rollBack
  refine bind (attempt d.rollback conn) ?_
  cases (ending d.rollback conn).1 with
  | ok undone =>
      split
      · exact bind (emit _ _) (pure _ _)
      · exact pure _ _
  | error lost =>
      refine bind (emit _ _) ?_
      split
      · exact bind (emit _ _) (pure _ _)
      · exact pure _ _

/-- An interrupted batch is rolled back, and its error tells the rows that were durable before. -/
theorem interrupt (d : Driver σ) (ledger : Ledger) (chunk : ChunkRange) (index : Option Nat)
    (e : DbError) (conn : σ) :
    Ends (Execution.interrupt d ledger chunk index e) conn
      (.ok (afterRollback (.interrupted index chunk ledger.discard.total e)
        (ending d.rollback conn).1)) (ending d.rollback conn).2 := by
  unfold Execution.interrupt
  exact bind (emit _ _) (bind (rollBack d ledger conn) (pure _ _))

end Ends

/-! ### One trial -/

variable {d : Driver σ} {config : ExecutorConfig} {sql : String}

/-- After a failed execution the trial is rolled back, whatever the rollback answers. -/
theorem trial_of_error (d : Driver σ) (config : ExecutorConfig)
    {execution : EStateM DbError σ Nat} {conn middle : σ} {e : DbError}
    (failed : ending execution conn = (.error e, middle)) :
    Trial.ofDriver d config execution conn =
      (.failed e (ending d.rollback middle).1, (ending d.rollback middle).2) := by
  simp only [Trial.ofDriver, failed]

/-- What `settle` does after a successful execution, beside the trial that it belongs to. -/
theorem settle_cases (config : ExecutorConfig) {execution : EStateM DbError σ Nat}
    {conn middle : σ} {count : Nat} (succeeded : ending execution conn = (.ok count, middle))
    (ledger : Ledger) (chunk : ChunkRange) (index : Option Nat) :
    (∃ after, Trial.ofDriver d config execution conn = (.applied count, after) ∧
      Ends (settle d config ledger chunk index count) middle
        (.ok (if config.commitChunks then (ledger.add count).commit else ledger.add count))
        after) ∨
    (∃ e rollback after,
      Trial.ofDriver d config execution conn = (.uncommitted count e rollback, after) ∧
      Ends (settle d config ledger chunk index count) middle
        (.error (afterRollback
          (.interrupted index chunk (ledger.add count).discard.total e) rollback)) after) := by
  by_cases commits : config.commitChunks
  · cases committed : ending d.commit middle with
    | mk answer after =>
        have tried := Ends.attempt d.commit middle
        rw [committed] at tried
        cases answer with
        | ok =>
            left
            refine ⟨after, ?_, ?_⟩
            · simp only [Trial.ofDriver, succeeded, commits, if_true, committed]
            · simp only [settle, commits, if_true]
              exact Ends.bind tried (Ends.pure _ _)
        | error e =>
            right
            refine ⟨e, (ending d.rollback after).1, (ending d.rollback after).2, ?_, ?_⟩
            · simp only [Trial.ofDriver, succeeded, commits, if_true, committed]
            · simp only [settle, commits, if_true]
              exact Ends.bind tried (Ends.bind (Ends.interrupt d _ chunk index e after)
                (Ends.throw _ _))
  · left
    refine ⟨middle, ?_, ?_⟩
    · simp only [Trial.ofDriver, succeeded, commits, if_false, Bool.false_eq_true]
    · simp only [settle, commits, if_false, Bool.false_eq_true]
      exact Ends.pure _ _

/-- The action ends as the course of the tasks does. -/
def Follows (d : Driver σ) (config : ExecutorConfig) (sql : String) (action : Action σ Progress)
    (tasks : List Task) (progress : Progress) : Prop :=
  ∀ conn, Ends action conn (course d config sql tasks progress conn).result
    (course d config sql tasks progress conn).conn

theorem Follows.emit {action : Action σ Progress} {tasks : List Task} {progress : Progress}
    (follows : Follows d config sql action tasks progress) (event : Log.Event) :
    Follows d config sql (Channel.emit event >>= fun _ => action) tasks progress := by
  intro conn
  exact Ends.bind (Ends.emit event conn) (follows conn)

section Trials

variable (task : Task) {rest : List Task} {progress : Progress} {conn middle : σ}

/-- A successful execution: `settle` either goes on as the task does or fails as it does. -/
theorem ends_settle {count : Nat} {next : Ledger → Action σ Progress}
    (succeeded : ending (task.execution d sql) conn = (.ok count, middle))
    (continued : ∀ ledger, Follows d config sql (next ledger) (task.remaining ++ rest)
      { progress with ledger := ledger }) :
    Ends (settle d config progress.ledger task.place.range task.place.index? count >>= next) middle
      (course d config sql (task :: rest) progress conn).result
      (course d config sql (task :: rest) progress conn).conn := by
  rcases settle_cases config succeeded progress.ledger task.place.range task.place.index? with
    ⟨after, trial, settled⟩ | ⟨e, rollback, after, trial, settled⟩
  · have continues : task.advance config progress (.applied count) = .ok (_, _) := rfl
    rw [course_continue trial continues]
    exact Ends.bind settled (continued _ after)
  · have stops : task.advance config progress (.uncommitted count e rollback) = .error _ := rfl
    rw [course_stop trial stops]
    exact Ends.bind_error settled

/-- An error that is not retried ends the batch. -/
theorem ends_interrupt {e : DbError} {next : DbError → Action σ Progress}
    (failed : ending (task.execution d sql) conn = (.error e, middle))
    (fatal : ¬ e.isRetryable)
    (thrown : ∀ fault after, Ends (next fault) after (.error fault) after) :
    Ends (interrupt d progress.ledger task.place.range task.place.index? e >>= next) middle
      (course d config sql (task :: rest) progress conn).result
      (course d config sql (task :: rest) progress conn).conn := by
  have trial := trial_of_error d config failed
  have stops : task.advance config progress (.failed e (ending d.rollback middle).1) =
      .error _ := if_neg fatal
  rw [course_stop trial stops]
  exact Ends.bind (Ends.interrupt d _ _ _ e middle) (thrown _ _)

/-- After a rejection the rollback decides: the batch ends, or it goes on as the task does. -/
theorem ends_rollBack {e : DbError} {next : Except DbError Unit → Action σ Progress}
    (failed : ending (task.execution d sql) conn = (.error e, middle))
    (retryable : e.isRetryable)
    (lost : ∀ rollback after, Ends (next (.error rollback)) after
      (.error (.rollbackFailed (task.rejection progress.ledger.discard.total e) rollback)) after)
    (stopped : ∀ fault after,
      task.afterRejection config.failurePolicy { progress with ledger := progress.ledger.discard }
        e = .error fault →
      Ends (next (.ok ())) after (.error fault) after)
    (continued : ∀ tasks resumed,
      task.afterRejection config.failurePolicy { progress with ledger := progress.ledger.discard }
        e = .ok (tasks, resumed) →
      Follows d config sql (next (.ok ())) (tasks ++ rest) resumed) :
    Ends (rollBack d progress.ledger >>= next) middle
      (course d config sql (task :: rest) progress conn).result
      (course d config sql (task :: rest) progress conn).conn := by
  have trial := trial_of_error d config failed
  refine Ends.bind (Ends.rollBack d _ middle) ?_
  cases rolled : (ending d.rollback middle).1 with
  | error rollback =>
      rw [rolled] at trial
      have stops : task.advance config progress (.failed e (.error rollback)) = .error _ :=
        if_pos retryable
      rw [course_stop trial stops]
      exact lost rollback _
  | ok undone =>
      rw [rolled] at trial
      have advanced : task.advance config progress (.failed e (.ok undone)) =
        task.afterRejection config.failurePolicy
          { progress with ledger := progress.ledger.discard } e := if_pos retryable
      cases answer : task.afterRejection config.failurePolicy
          { progress with ledger := progress.ledger.discard } e with
      | error fault =>
          rw [course_stop trial (advanced.trans answer)]
          exact stopped fault _ answer
      | ok resumption =>
          rw [course_continue trial (advanced.trans answer)]
          exact continued _ _ answer _

end Trials

/-! ### The whole batch -/

private theorem runRecords_follows {next : Progress → Action σ Progress} {rest : List Task}
    (continued : ∀ progress, Follows d config sql (next progress) rest progress)
    (chunk : ChunkRange) (rows : List Row) :
    ∀ (index : Nat) (progress : Progress),
      Follows d config sql (runRecords d config sql chunk index rows progress >>= next)
        (Task.ofRecords chunk index rows ++ rest) progress := by
  induction rows with
  | nil =>
      intro index progress conn
      exact Ends.bind (Ends.pure _ _) (continued progress conn)
  | cons row rows inductionHypothesis =>
      intro index progress conn
      simp only [runRecords, bind_assoc, Task.ofRecords, List.singleton_append]
      cases answered : ending (d.executeOne sql row) conn with
      | mk answer middle =>
          have tried := Ends.attempt (d.executeOne sql row) conn
          rw [answered] at tried
          refine Ends.bind tried ?_
          cases answer with
          | ok count =>
              rw [bind_assoc]
              exact ends_settle (.records chunk index row rows) answered
                fun ledger => inductionHypothesis _ _
          | error e =>
              by_cases retryable : e.isRetryable
              · simp only [retryable, if_true, bind_assoc]
                refine Ends.bind (Ends.emit _ _) ?_
                refine ends_rollBack (.records chunk index row rows) answered retryable
                  (fun rollback after => Ends.bind_error (Ends.throw _ _)) ?_ ?_
                · intro fault after stops
                  cases policy : config.failurePolicy with
                  | abort =>
                      rw [policy] at stops
                      cases stops
                      exact Ends.bind_error (Ends.throw _ _)
                  | isolate =>
                      rw [policy] at stops
                      cases stops
                · intro tasks resumed continues
                  cases policy : config.failurePolicy with
                  | abort =>
                      rw [policy] at continues
                      cases continues
                  | isolate =>
                      rw [policy] at continues
                      cases continues
                      exact inductionHypothesis _ _
              · simp only [retryable, if_false, bind_assoc, Bool.false_eq_true]
                exact ends_interrupt (.records chunk index row rows) answered retryable
                  fun fault after => Ends.bind_error (Ends.throw _ _)

/-- Draining a pile of stretches is working off one task for each. -/
theorem drain_follows (d : Driver σ) (config : ExecutorConfig) (sql : String)
    (stretches : List Stretch) (progress : Progress) :
    Follows d config sql (drain d config sql stretches progress) (stretches.map Task.chunks)
      progress := by
  intro conn
  match stretches with
  | [] =>
      rw [drain, List.map_nil, course_nil]
      exact Ends.pure _ _
  | stretch :: rest =>
      rw [drain, List.map_cons]
      refine Ends.bind (Ends.emit _ _) ?_
      cases answered : ending (d.executeMany sql stretch.chunk) conn with
      | mk answer middle =>
          have tried := Ends.attempt (d.executeMany sql stretch.chunk) conn
          rw [answered] at tried
          refine Ends.bind tried ?_
          have later : ∀ progress, Follows d config sql
              (drain d config sql (stretch.remaining ++ rest) progress)
              ((Task.chunks stretch).remaining ++ rest.map Task.chunks) progress := by
            intro progress
            have follows := drain_follows d config sql (stretch.remaining ++ rest) progress
            rw [List.map_append] at follows
            exact follows
          cases answer with
          | ok count =>
              exact ends_settle (.chunks stretch) answered fun ledger => later _
          | error e =>
              by_cases retryable : e.isRetryable
              · simp only [retryable, if_true]
                refine Ends.bind (Ends.emit _ _) ?_
                refine ends_rollBack (.chunks stretch) answered retryable
                  (fun rollback after => Ends.throw _ _) ?_ ?_
                · intro fault after stops
                  cases stops
                · intro tasks resumed continues
                  cases continues
                  by_cases small : stretch.isSmall
                  · simp only [small, dite_true, if_true, List.append_assoc]
                    exact Follows.emit (runRecords_follows later _ _ _ _) _
                  · rw [if_neg small]
                    simp only [small, dite_false, Bool.false_eq_true]
                    have follows := drain_follows d config sql
                      (stretch.retry :: (stretch.remaining ++ rest))
                      { progress with ledger := progress.ledger.discard }
                    rw [List.map_cons, List.map_append] at follows
                    exact Follows.emit follows _
              · simp only [retryable, if_false, Bool.false_eq_true]
                exact ends_interrupt (.chunks stretch) answered retryable
                  fun fault after => Ends.throw _ _
termination_by Stretch.totalWork stretches
decreasing_by
  · exact Stretch.work_remaining_lt stretch rest
  · exact Stretch.work_retry_lt stretch rest (by simpa using small)

/-- A batch without an error in between ends with its rows or with its failed records. -/
theorem ends_verdict {action : Action σ Progress} {conn after : σ}
    {result : Except DbError Progress} (ended : Ends action conn result after) :
    Ends (action >>= fun progress =>
        if progress.failures.isEmpty then return progress.ledger.total
        else throw (.partialBatch progress.ledger.total progress.failures.toList)) conn
      (result >>= Progress.verdict) after := by
  cases result with
  | error e => exact Ends.bind_error ended
  | ok progress =>
      refine Ends.bind ended ?_
      simp only [Bind.bind, Except.bind, Progress.verdict]
      split
      · exact Ends.pure _ _
      · exact Ends.throw _ _

/-- A batch ends as its course does. -/
theorem run_ends (d : Driver σ) {config : ExecutorConfig} (sql : String) (rows : List Row)
    (positive : 0 < config.chunkSize) (conn : σ) :
    Ends (run d config sql rows) conn (batchCourse d config sql rows conn).outcome
      (batchCourse d config sql rows conn).conn := by
  have valid : config.validate = .ok () := if_neg (by omega)
  simp only [run, valid]
  by_cases empty : rows = []
  · simp only [empty, ne_eq, not_true_eq_false, and_false, dite_false, batchCourse,
      Task.ofBatch_nil, course_nil]
    exact Ends.pure 0 conn
  · simp only [positive, empty, ne_eq, not_false_eq_true, and_true, dite_true]
    let whole : Stretch := ⟨0, rows, config.chunkSize, rows.length, positive, empty⟩
    have ended : Ends (drain d config sql [whole] Progress.start) conn
        (batchCourse d config sql rows conn).result
        (batchCourse d config sql rows conn).conn := by
      rw [batchCourse, Task.ofBatch_of_ne positive empty]
      exact drain_follows d config sql [whole] Progress.start conn
    split
    · exact Ends.bind (Ends.emit _ _) (ends_verdict ended)
    · exact ends_verdict ended

/-! ### The calls that reach the driver -/

theorem ending_noting (call : Call) (rows : α → Nat) (action : EStateM DbError σ α) (conn : σ)
    (noted : Array Exchange) :
    ending (Recorded.noting call rows action) ⟨conn, noted⟩ =
      ((ending action conn).1,
        ⟨(ending action conn).2, noted.push ⟨call, (ending action conn).1.map rows⟩⟩) := by
  simp only [ending, Recorded.noting]
  cases action conn <;> rfl

private theorem ending_execution_recorded (d : Driver σ) (sql : String) (task : Task) (conn : σ)
    (noted : Array Exchange) :
    ending (task.execution d.recorded sql) ⟨conn, noted⟩ =
      ((ending (task.execution d sql) conn).1, ⟨(ending (task.execution d sql) conn).2,
        noted.push ⟨task.call sql, (ending (task.execution d sql) conn).1⟩⟩) := by
  cases task with
  | chunks stretch =>
      have noting := ending_noting (.many sql stretch.chunk) id (d.executeMany sql stretch.chunk)
        conn noted
      rw [Except.map_id] at noting
      exact noting
  | records range index row rest =>
      have noting := ending_noting (.one sql row) id (d.executeOne sql row) conn noted
      rw [Except.map_id] at noting
      exact noting

/-- Noting the calls of a trial does not change it. -/
theorem trial_recorded (d : Driver σ) (config : ExecutorConfig) (sql : String) (task : Task)
    (conn : σ) (noted : Array Exchange) :
    Trial.ofDriver d.recorded config (task.execution d.recorded sql) ⟨conn, noted⟩ =
      ((Trial.ofDriver d config (task.execution d sql) conn).1,
        ⟨(Trial.ofDriver d config (task.execution d sql) conn).2,
          noted ++ ((Trial.ofDriver d config (task.execution d sql) conn).1.exchanges config
            (task.call sql)).toArray⟩) := by
  have rolledBack := ending_noting .rollback (fun () => 0) d.rollback
  have committed := ending_noting .commit (fun () => 0) d.commit
  simp only [Trial.ofDriver, ending_execution_recorded]
  cases executed : ending (task.execution d sql) conn with
  | mk answer middle =>
      cases answer with
      | error e =>
          simp only [Driver.recorded, rolledBack, Trial.exchanges, Trial.rollbackExchange]
          simp [← Array.toList_inj]
      | ok count =>
          by_cases commits : config.commitChunks
          · simp only [commits, if_true, Driver.recorded, committed]
            cases settled : ending d.commit middle with
            | mk answer after =>
                cases answer with
                | error e =>
                    simp only [rolledBack, Trial.exchanges, Trial.rollbackExchange]
                    simp [← Array.toList_inj, Except.map]
                | ok =>
                    simp only [Trial.exchanges, commits, if_true]
                    simp [← Array.toList_inj, Except.map]
          · simp [commits, Trial.exchanges]

/-- A driver that notes its calls takes the same course and notes the calls of the journal. -/
theorem course_recorded (d : Driver σ) (config : ExecutorConfig) (sql : String)
    (tasks : List Task) (progress : Progress) (conn : σ) (noted : Array Exchange) :
    course d.recorded config sql tasks progress ⟨conn, noted⟩ =
      ⟨(course d config sql tasks progress conn).journal,
        (course d config sql tasks progress conn).result,
        ⟨(course d config sql tasks progress conn).conn,
          noted ++ ((course d config sql tasks progress conn).journal.flatMap
            (JournalEntry.exchanges config)).toArray⟩⟩ := by
  fun_induction course d config sql tasks progress conn generalizing noted with
  | case1 progress conn =>
      rw [course_nil]
      simp
  | case2 task rest progress conn trial after tried e stops =>
      have recorded := trial_recorded d config sql task conn noted
      rw [tried] at recorded
      rw [course_stop recorded stops]
      simp [JournalEntry.exchanges, Task.entry]
  | case3 task rest progress conn trial after tried tasks next continues inductionHypothesis =>
      have recorded := trial_recorded d config sql task conn noted
      rw [tried] at recorded
      rw [course_continue recorded continues, inductionHypothesis]
      simp [JournalEntry.exchanges, Task.entry, Course.cons]

/-- The calls that reach the driver while a batch runs, oldest first. -/
def exchanges (d : Driver σ) (config : ExecutorConfig) (sql : String) (rows : List Row)
    (conn : σ) : List Exchange :=
  (ending (run d.recorded config sql rows) ⟨⟨conn, #[]⟩, #[]⟩).2.conn.exchanges.toList

/-- The calls that reach the driver are those of the journal, in order. -/
theorem exchanges_eq_journal (d : Driver σ) {config : ExecutorConfig} (sql : String)
    (rows : List Row) (positive : 0 < config.chunkSize) (conn : σ) :
    exchanges d config sql rows conn =
      (batchCourse d config sql rows conn).journal.flatMap (JournalEntry.exchanges config) := by
  obtain ⟨told, ended⟩ := run_ends d.recorded sql rows positive ⟨conn, #[]⟩ #[]
  rw [exchanges, ended]
  simp only [batchCourse, course_recorded, Array.empty_append, List.toList_toArray]

end SqlBind.Execution
