import SqlBind.Execution.Adaptive

/-!
Owns: the course of a batch, trial by trial. A trial is one execution together with the commit or
the rollback that goes with it. `Task.advance` says all that a trial can do to the work that is
left and to the progress, without any driver, and `course` feeds it with the trials of a driver.

Main statements: what a trial can have been (`Trial.made`), how a batch can go on after it
(`Task.goesOn`) and how it can end there (`Task.stops`). A trial that does not end the batch leaves
less work (`Task.totalWork_advance_lt`).
-/

set_option autoImplicit false

namespace SqlBind.Execution

variable {σ : Type}

/-- How an action ends, and the state that it leaves. -/
def ending {ε τ α : Type} (action : EStateM ε τ α) (state : τ) : Except ε α × τ :=
  match action state with
  | .ok result state => (.ok result, state)
  | .error e state => (.error e, state)

theorem of_ending_ok {ε τ α : Type} {action : EStateM ε τ α} {state after : τ} {result : α}
    (ended : ending action state = (.ok result, after)) : action state = .ok result after := by
  simp only [ending] at ended
  cases answer : action state <;> simp_all

theorem of_ending_error {ε τ α : Type} {action : EStateM ε τ α} {state after : τ} {e : ε}
    (ended : ending action state = (.error e, after)) : action state = .error e after := by
  simp only [ending] at ended
  cases answer : action state <;> simp_all

theorem ending_of_ok {ε τ α : Type} {action : EStateM ε τ α} {state after : τ} {result : α}
    (ran : action state = .ok result after) : ending action state = (.ok result, after) := by
  simp only [ending, ran]

theorem ending_of_error {ε τ α : Type} {action : EStateM ε τ α} {state after : τ} {e : ε}
    (failed : action state = .error e after) : ending action state = (.error e, after) := by
  simp only [ending, failed]

/-- After a success the next action decides how the two end. -/
theorem ending_bind_ok {ε τ α β : Type} {action : EStateM ε τ α} {next : α → EStateM ε τ β}
    {state middle : τ} {value : α} (first : ending action state = (.ok value, middle)) :
    ending (action >>= next) state = ending (next value) middle := by
  have ran := of_ending_ok first
  show ending (EStateM.bind action next) state = _
  simp only [ending, EStateM.bind, ran]

/-- After a failure the next action is not run. -/
theorem ending_bind_error {ε τ α β : Type} {action : EStateM ε τ α} {next : α → EStateM ε τ β}
    {state after : τ} {e : ε} (failed : ending action state = (.error e, after)) :
    ending (action >>= next) state = (.error e, after) := by
  have ran := of_ending_error failed
  show ending (EStateM.bind action next) state = _
  simp only [ending, EStateM.bind, ran]

/-- If two actions in a row end well, each does. -/
theorem of_ending_bind_ok {ε τ α β : Type} {action : EStateM ε τ α} {next : α → EStateM ε τ β}
    {state after : τ} {result : β} (ended : ending (action >>= next) state = (.ok result, after)) :
    ∃ value middle, ending action state = (.ok value, middle) ∧
      ending (next value) middle = (.ok result, after) := by
  cases first : ending action state with
  | mk answer middle =>
      cases answer with
      | error e =>
          rw [ending_bind_error first] at ended
          cases ended
      | ok value =>
          rw [ending_bind_ok first] at ended
          exact ⟨value, middle, rfl, ended⟩

/-! ### Places and trials -/

/-- What an execution is sent for. -/
inductive Place where
  /-- All records of a chunk. -/
  | chunk (range : ChunkRange)
  /-- One record of a chunk that the database rejected before. -/
  | record (range : ChunkRange) (index : Nat)
deriving DecidableEq, Repr, Inhabited

namespace Place

def range : Place → ChunkRange
  | chunk range => range
  | record range _ => range

def index? : Place → Option Nat
  | chunk _ => none
  | record _ index => some index

/-- The records that the execution carries. -/
def indices : Place → List Nat
  | chunk range => List.range' range.start (range.stop - range.start)
  | record _ index => [index]

def call (sql : String) (rows : List Row) : Place → Call
  | chunk range => .many sql ((rows.drop range.start).take (range.stop - range.start))
  | record _ index => .one sql (rows.getD index [])

end Place

/-- How an execution ended, with the commit or the rollback that went with it. -/
inductive Trial where
  /-- It affected some rows and, if chunks are committed, so did the commit after it. -/
  | applied (count : Nat)
  /-- It affected some rows, but the commit after it failed. -/
  | uncommitted (count : Nat) (error : DbError) (rollback : Except DbError Unit)
  | failed (error : DbError) (rollback : Except DbError Unit)
deriving Inhabited

namespace Trial

def ofDriver (d : Driver σ) (config : ExecutorConfig) (execution : EStateM DbError σ Nat)
    (conn : σ) : Trial × σ :=
  match ending execution conn with
  | (.error e, conn) =>
      let (rollback, conn) := ending d.rollback conn
      (.failed e rollback, conn)
  | (.ok count, conn) =>
      if config.commitChunks then
        match ending d.commit conn with
        | (.ok (), conn) => (.applied count, conn)
        | (.error e, conn) =>
            let (rollback, conn) := ending d.rollback conn
            (.uncommitted count e rollback, conn)
      else (.applied count, conn)

/-- What the driver did in a trial that began on `conn`. -/
inductive Made (d : Driver σ) (config : ExecutorConfig) (execution : EStateM DbError σ Nat)
    (conn : σ) : Trial → σ → Prop where
  | pending {count : Nat} {after : σ} (mode : config.commitChunks = false)
      (executed : ending execution conn = (.ok count, after)) :
      Made d config execution conn (.applied count) after
  | committed {count : Nat} {middle after : σ} (mode : config.commitChunks = true)
      (executed : ending execution conn = (.ok count, middle))
      (settled : ending d.commit middle = (.ok (), after)) :
      Made d config execution conn (.applied count) after
  | uncommitted {count : Nat} {e : DbError} {rollback : Except DbError Unit}
      {middle settled after : σ} (mode : config.commitChunks = true)
      (executed : ending execution conn = (.ok count, middle))
      (refused : ending d.commit middle = (.error e, settled))
      (undone : ending d.rollback settled = (rollback, after)) :
      Made d config execution conn (.uncommitted count e rollback) after
  | failed {e : DbError} {rollback : Except DbError Unit} {middle after : σ}
      (executed : ending execution conn = (.error e, middle))
      (undone : ending d.rollback middle = (rollback, after)) :
      Made d config execution conn (.failed e rollback) after

/-- Every trial is one of those that `Made` lists. -/
theorem made {d : Driver σ} {config : ExecutorConfig} {execution : EStateM DbError σ Nat}
    {conn after : σ} {trial : Trial}
    (tried : Trial.ofDriver d config execution conn = (trial, after)) :
    Made d config execution conn trial after := by
  simp only [Trial.ofDriver] at tried
  cases executed : ending execution conn with
  | mk answer middle =>
      rw [executed] at tried
      cases answer with
      | error e =>
          cases tried
          exact .failed executed rfl
      | ok count =>
          by_cases commits : config.commitChunks
          · simp only [commits, if_true] at tried
            cases committed : ending d.commit middle with
            | mk answer settled =>
                rw [committed] at tried
                cases answer with
                | error e =>
                    cases tried
                    exact .uncommitted commits executed committed rfl
                | ok =>
                    cases tried
                    exact .committed commits executed committed
          · rw [Bool.not_eq_true] at commits
            simp only [commits, Bool.false_eq_true, if_false] at tried
            cases tried
            exact .pending commits executed

theorem Made.ofDriver_eq {d : Driver σ} {config : ExecutorConfig}
    {execution : EStateM DbError σ Nat} {conn after : σ} {trial : Trial}
    (made : Made d config execution conn trial after) :
    Trial.ofDriver d config execution conn = (trial, after) := by
  cases made with
  | pending mode executed => simp [Trial.ofDriver, executed, mode]
  | committed mode executed settled => simp [Trial.ofDriver, executed, mode, settled]
  | uncommitted mode executed refused undone =>
      simp [Trial.ofDriver, executed, mode, refused, undone]
  | failed executed undone => simp [Trial.ofDriver, executed, undone]

/-- How a rollback is noted: it affects no rows. -/
def rollbackExchange (rollback : Except DbError Unit) : Exchange :=
  ⟨.rollback, rollback.map fun () => 0⟩

def exchanges (config : ExecutorConfig) (call : Call) : Trial → List Exchange
  | applied count =>
      ⟨call, .ok count⟩ :: if config.commitChunks then [⟨.commit, .ok 0⟩] else []
  | uncommitted count e rollback =>
      [⟨call, .ok count⟩, ⟨.commit, .error e⟩, rollbackExchange rollback]
  | failed e rollback => [⟨call, .error e⟩, rollbackExchange rollback]

end Trial

/-- A trial, what it was made for, and the driver call that it began with. -/
structure JournalEntry where
  place : Place
  call : Call
  trial : Trial
deriving Inhabited

namespace JournalEntry

/-- The records that an entry settles as executed. -/
def applied (entry : JournalEntry) : List Nat :=
  match entry.trial with
  | .applied _ => entry.place.indices
  | _ => []

/-- The record that an entry settles as failed on its own, to be reported at the end. -/
def isolated (policy : FailurePolicy) (entry : JournalEntry) : List Nat :=
  match policy, entry.place, entry.trial with
  | .isolate, .record _ index, .failed e (.ok ()) => if e.isRetryable then [index] else []
  | _, _, _ => []

def exchanges (config : ExecutorConfig) (entry : JournalEntry) : List Exchange :=
  entry.trial.exchanges config entry.call

end JournalEntry

/-! ### Tasks -/

/-- Work that a batch has left. -/
inductive Task where
  /-- A stretch that is sent in chunks. -/
  | chunks (stretch : Stretch)
  /-- Records that are sent one by one, the first of them at `index`. -/
  | records (range : ChunkRange) (index : Nat) (row : Row) (rest : List Row)

namespace Task

/-- The task for the records of a chunk from `index` on, unless none is left. -/
def ofRecords (range : ChunkRange) (index : Nat) : List Row → List Task
  | [] => []
  | row :: rest => [records range index row rest]

/-- What the next trial of a task is made for. -/
def place : Task → Place
  | chunks stretch => .chunk stretch.range
  | records range index _ _ => .record range index

def call (sql : String) : Task → Call
  | chunks stretch => .many sql stretch.chunk
  | records _ _ row _ => .one sql row

def execution (d : Driver σ) (sql : String) : Task → EStateM DbError σ Nat
  | chunks stretch => d.executeMany sql stretch.chunk
  | records _ _ row _ => d.executeOne sql row

def entry (sql : String) (task : Task) (trial : Trial) : JournalEntry :=
  ⟨task.place, task.call sql, trial⟩

/-- What is left of a task after the next trial has settled what it carries. -/
def remaining : Task → List Task
  | chunks stretch => stretch.remaining.map chunks
  | records range index _ rest => ofRecords range (index + 1) rest

/-- The error of a record, or a whole chunk, that the database rejected. -/
def rejection (applied : Nat) (e : DbError) : Task → DbError
  | chunks stretch => .interrupted none stretch.range applied e
  | records range index row _ => .execution index range applied (Row.describe row) e

/-- What takes the place of a task that the database rejected and that was rolled back. -/
def afterRejection (policy : FailurePolicy) (progress : Progress) (e : DbError) (task : Task) :
    Except DbError (List Task × Progress) :=
  match task with
  | chunks stretch =>
      let again := if stretch.isSmall then ofRecords stretch.range stretch.start stretch.chunk
        else [chunks stretch.retry]
      .ok (again ++ task.remaining, progress)
  | records _ index row _ =>
      match policy with
      | .abort => .error (task.rejection progress.ledger.total e)
      | .isolate =>
          .ok (task.remaining,
            { progress with failures := progress.failures.push ⟨index, Row.describe row, e⟩ })

/-- What takes the place of a task after a trial of it, or the error that ends the batch. -/
def advance (config : ExecutorConfig) (task : Task) (progress : Progress) :
    Trial → Except DbError (List Task × Progress)
  | .applied count =>
      let ledger := progress.ledger.add count
      .ok (task.remaining,
        { progress with ledger := if config.commitChunks then ledger.commit else ledger })
  | .uncommitted count e rollback =>
      let applied := (progress.ledger.add count).discard.total
      .error (afterRollback (.interrupted task.place.index? task.place.range applied e) rollback)
  | .failed e rollback =>
      let ledger := progress.ledger.discard
      if e.isRetryable then
        match rollback with
        | .error lost => .error (.rollbackFailed (task.rejection ledger.total e) lost)
        | .ok () => task.afterRejection config.failurePolicy { progress with ledger := ledger } e
      else
        .error (afterRollback (.interrupted task.place.index? task.place.range ledger.total e)
          rollback)

/-- How a batch goes on after a trial: with the tasks that take the place of the tried one, and with
the progress then. -/
inductive GoesOn (config : ExecutorConfig) (progress : Progress) :
    Task → Trial → List Task → Progress → Prop where
  | applied (task : Task) (count : Nat) :
      GoesOn config progress task (.applied count) task.remaining
        { progress with
          ledger := if config.commitChunks then (progress.ledger.add count).commit
            else progress.ledger.add count }
  | single (stretch : Stretch) {e : DbError} (retryable : e.isRetryable = true)
      (small : stretch.isSmall = true) :
      GoesOn config progress (chunks stretch) (.failed e (.ok ()))
        (ofRecords stretch.range stretch.start stretch.chunk ++ (chunks stretch).remaining)
        { progress with ledger := progress.ledger.discard }
  | smaller (stretch : Stretch) {e : DbError} (retryable : e.isRetryable = true)
      (large : stretch.isSmall = false) :
      GoesOn config progress (chunks stretch) (.failed e (.ok ()))
        (chunks stretch.retry :: (chunks stretch).remaining)
        { progress with ledger := progress.ledger.discard }
  | isolated (range : ChunkRange) (index : Nat) (row : Row) (rest : List Row) {e : DbError}
      (retryable : e.isRetryable = true) (policy : config.failurePolicy = .isolate) :
      GoesOn config progress (records range index row rest) (.failed e (.ok ()))
        (ofRecords range (index + 1) rest)
        ⟨progress.ledger.discard, progress.failures.push ⟨index, Row.describe row, e⟩⟩

/-- A batch that goes on does so in one of the ways that `GoesOn` lists. -/
theorem goesOn {config : ExecutorConfig} {task : Task} {progress next : Progress} {trial : Trial}
    {tasks : List Task} (advanced : task.advance config progress trial = .ok (tasks, next)) :
    GoesOn config progress task trial tasks next := by
  cases trial with
  | applied count =>
      cases advanced
      exact .applied task count
  | uncommitted count e rollback => cases advanced
  | failed e rollback =>
      simp only [advance] at advanced
      by_cases retryable : e.isRetryable
      · rw [if_pos retryable] at advanced
        cases rollback with
        | error lost => cases advanced
        | ok =>
            cases task with
            | chunks stretch =>
                cases advanced
                by_cases small : stretch.isSmall
                · rw [if_pos small]
                  exact .single stretch retryable small
                · rw [if_neg small]
                  exact .smaller stretch retryable (by simpa using small)
            | records range index row rest =>
                cases policy : config.failurePolicy with
                | abort =>
                    rw [policy] at advanced
                    cases advanced
                | isolate =>
                    rw [policy] at advanced
                    cases advanced
                    exact .isolated range index row rest retryable policy
      · rw [if_neg retryable] at advanced
        cases advanced

/-- How a batch ends after a trial. What was not committed before the trial is not applied. -/
inductive Stops (config : ExecutorConfig) (progress : Progress) :
    Task → Trial → DbError → Prop where
  | uncommitted (task : Task) (count : Nat) (e : DbError) (rollback : Except DbError Unit) :
      Stops config progress task (.uncommitted count e rollback)
        (afterRollback (.interrupted task.place.index? task.place.range progress.ledger.committed e)
          rollback)
  | broken (task : Task) {e : DbError} (rollback : Except DbError Unit)
      (fatal : e.isRetryable = false) :
      Stops config progress task (.failed e rollback)
        (afterRollback (.interrupted task.place.index? task.place.range progress.ledger.committed e)
          rollback)
  | lost (task : Task) {e : DbError} (rollback : DbError) (retryable : e.isRetryable = true) :
      Stops config progress task (.failed e (.error rollback))
        (.rollbackFailed (task.rejection progress.ledger.committed e) rollback)
  | aborted (range : ChunkRange) (index : Nat) (row : Row) (rest : List Row) {e : DbError}
      (retryable : e.isRetryable = true) (policy : config.failurePolicy = .abort) :
      Stops config progress (records range index row rest) (.failed e (.ok ()))
        (.execution index range progress.ledger.committed (Row.describe row) e)

/-- A batch that stops does so in one of the ways that `Stops` lists. -/
theorem stops {config : ExecutorConfig} {task : Task} {progress : Progress} {trial : Trial}
    {fault : DbError} (advanced : task.advance config progress trial = .error fault) :
    Stops config progress task trial fault := by
  cases trial with
  | applied count => cases advanced
  | uncommitted count e rollback =>
      cases advanced
      exact .uncommitted task count e rollback
  | failed e rollback =>
      simp only [advance] at advanced
      by_cases retryable : e.isRetryable
      · rw [if_pos retryable] at advanced
        cases rollback with
        | error lost =>
            cases advanced
            exact .lost task lost retryable
        | ok =>
            cases task with
            | chunks stretch => cases advanced
            | records range index row rest =>
                cases policy : config.failurePolicy with
                | abort =>
                    rw [policy] at advanced
                    cases advanced
                    exact .aborted range index row rest retryable policy
                | isolate =>
                    rw [policy] at advanced
                    cases advanced
      · rw [if_neg retryable] at advanced
        cases advanced
        exact .broken task rollback (by simpa using retryable)

/-- A bound on the trials that a task still causes. -/
def work : Task → Nat
  | chunks stretch => stretch.work
  | records _ _ _ rest => rest.length + 1

def totalWork : List Task → Nat
  | [] => 0
  | task :: rest => task.work + totalWork rest

@[simp] theorem totalWork_append (left right : List Task) :
    totalWork (left ++ right) = totalWork left + totalWork right := by
  induction left with
  | nil => exact (Nat.zero_add _).symm
  | cons task rest inductionHypothesis =>
      simp only [List.cons_append, totalWork]
      rw [inductionHypothesis, Nat.add_assoc]

@[simp] theorem totalWork_cons (task : Task) (rest : List Task) :
    totalWork (task :: rest) = task.work + totalWork rest := rfl

theorem totalWork_chunks (stretches : List Stretch) :
    totalWork (stretches.map chunks) = Stretch.totalWork stretches := by
  induction stretches with
  | nil => rfl
  | cons stretch rest inductionHypothesis =>
      rw [List.map_cons, totalWork_cons, inductionHypothesis]
      rfl

private theorem totalWork_ofRecords (range : ChunkRange) (index : Nat) (rows : List Row) :
    totalWork (ofRecords range index rows) = rows.length := by
  cases rows <;> rfl

private theorem totalWork_remaining_lt (task : Task) : totalWork task.remaining < task.work := by
  cases task with
  | chunks stretch =>
      have smaller := Stretch.work_remaining_lt stretch []
      simp only [remaining, totalWork_chunks, work]
      simpa [Stretch.totalWork] using smaller
  | records range index row rest =>
      simp only [remaining, totalWork_ofRecords, work]
      omega

/-- A trial that does not end the batch leaves less work. -/
theorem totalWork_advance_lt {config : ExecutorConfig} {task : Task} {progress next : Progress}
    {trial : Trial} {tasks : List Task}
    (advanced : task.advance config progress trial = .ok (tasks, next)) :
    totalWork tasks < task.work := by
  cases goesOn advanced with
  | applied count => exact totalWork_remaining_lt task
  | single stretch retryable small =>
      have balance := stretch.work_remaining
      have nonempty := stretch.length_chunk_pos
      have fewer : stretch.chunk.length < stretch.chunk.length * (stretch.chunkSize + 1) := by
        have positive := stretch.chunkSize_pos
        exact (Nat.lt_mul_iff_one_lt_right nonempty).mpr (by omega)
      simp only [totalWork_append, totalWork_ofRecords, remaining, totalWork_chunks, work]
      omega
  | smaller stretch retryable large =>
      have smaller := Stretch.work_retry_lt stretch [] large
      show totalWork ((stretch.retry :: stretch.remaining).map chunks) < stretch.work
      rw [totalWork_chunks]
      simpa [Stretch.totalWork] using smaller
  | isolated range index row rest retryable policy =>
      exact totalWork_remaining_lt (records range index row rest)

end Task

/-! ### The course of a batch -/

/-- What became of a batch: its trials, how it ended, and the connection after it. -/
structure Course (σ : Type) where
  journal : List JournalEntry
  result : Except DbError Progress
  conn : σ

namespace Course

def cons (entry : JournalEntry) (course : Course σ) : Course σ :=
  { course with journal := entry :: course.journal }

end Course

/-- Works off the tasks in order. -/
def course (d : Driver σ) (config : ExecutorConfig) (sql : String) :
    List Task → Progress → σ → Course σ
  | [], progress, conn => ⟨[], .ok progress, conn⟩
  | task :: rest, progress, conn =>
      let (trial, conn) := Trial.ofDriver d config (task.execution d sql) conn
      match _continues : task.advance config progress trial with
      | .error e => ⟨[task.entry sql trial], .error e, conn⟩
      | .ok (tasks, progress) =>
          (course d config sql (tasks ++ rest) progress conn).cons (task.entry sql trial)
termination_by tasks => Task.totalWork tasks
decreasing_by
  have less := Task.totalWork_advance_lt _continues
  simp only [Task.totalWork_append, Task.totalWork_cons]
  omega

section Equations

variable {d : Driver σ} {config : ExecutorConfig} {sql : String} {task : Task}
  {rest tasks : List Task} {progress next : Progress} {conn after : σ} {trial : Trial}

theorem course_nil : course d config sql [] progress conn = ⟨[], .ok progress, conn⟩ := by
  rw [course]

/-- A trial that ends the batch is the last entry of its journal. -/
theorem course_stop {e : DbError}
    (tried : Trial.ofDriver d config (task.execution d sql) conn = (trial, after))
    (stops : task.advance config progress trial = .error e) :
    course d config sql (task :: rest) progress conn =
      ⟨[task.entry sql trial], .error e, after⟩ := by
  rw [course, tried]
  dsimp only
  split
  · rename_i other same
    rw [stops] at same
    cases same
    rfl
  · rename_i same
    rw [stops] at same
    cases same

/-- After any other trial the tasks that it leaves come before the rest. -/
theorem course_continue
    (tried : Trial.ofDriver d config (task.execution d sql) conn = (trial, after))
    (continues : task.advance config progress trial = .ok (tasks, next)) :
    course d config sql (task :: rest) progress conn =
      (course d config sql (tasks ++ rest) next after).cons (task.entry sql trial) := by
  rw [course, tried]
  dsimp only
  split
  · rename_i same
    rw [continues] at same
    cases same
  · rename_i same
    rw [continues] at same
    cases same
    rfl

end Equations

/-- The outcome of a batch without errors in between: the rows applied, or the failed records. -/
def Progress.verdict (progress : Progress) : Except DbError Nat :=
  if progress.failures.isEmpty then .ok progress.ledger.total
  else .error (.partialBatch progress.ledger.total progress.failures.toList)

def Course.outcome (course : Course σ) : Except DbError Nat := course.result >>= Progress.verdict

/-- What a batch has to do at first. -/
def Task.ofBatch (config : ExecutorConfig) (rows : List Row) : List Task :=
  if positive : 0 < config.chunkSize then
    if nonempty : rows ≠ [] then
      [chunks ⟨0, rows, config.chunkSize, rows.length, positive, nonempty⟩]
    else []
  else []

theorem Task.ofBatch_nil (config : ExecutorConfig) : Task.ofBatch config [] = [] := by
  unfold Task.ofBatch
  split <;> rfl

/-- A batch begins with all its records in one stretch, in chunks of the configured size. -/
theorem Task.ofBatch_of_ne {config : ExecutorConfig} {rows : List Row}
    (positive : 0 < config.chunkSize) (nonempty : rows ≠ []) :
    Task.ofBatch config rows =
      [chunks ⟨0, rows, config.chunkSize, rows.length, positive, nonempty⟩] := by
  rw [Task.ofBatch, dif_pos positive, dif_pos nonempty]

/-- The course of a batch from its first chunk on. -/
def batchCourse (d : Driver σ) (config : ExecutorConfig) (sql : String) (rows : List Row)
    (conn : σ) : Course σ :=
  course d config sql (Task.ofBatch config rows) Progress.start conn

end SqlBind.Execution
