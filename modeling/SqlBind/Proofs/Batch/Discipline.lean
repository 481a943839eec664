import SqlBind.Driver.Scripted
import SqlBind.Proofs.Batch.Agreement

/-!
Owns: the order of driver calls in a batch. `Lawful` says of one call what has to come right before
it and right after it; a batch keeps to that at every call, through all its retries.

Main statement: every failure is rolled back at once and nothing else is, successes are committed if
the settings say so, and only what the database itself rejected is tried again
(`driver_calls_are_disciplined`).
-/

set_option autoImplicit false

namespace SqlBind

def Call.executes : Call → Bool
  | one _ _ => true
  | many _ _ => true
  | rollback => false
  | commit => false

/-- The error that the error of a batch is about. -/
def DbError.source? : DbError → Option DbError
  | execution _ _ _ _ source => some source
  | interrupted _ _ _ source => some source
  | _ => none

theorem Call.ne_rollback_of_executes {call : Call} (executes : call.executes = true) :
    call ≠ .rollback := by
  rintro rfl
  cases executes

theorem Call.ne_commit_of_executes {call : Call} (executes : call.executes = true) :
    call ≠ .commit := by
  rintro rfl
  cases executes

namespace Execution

variable {σ : Type}

open Trial (rollbackExchange)

/-! ### The law of a call -/

/-- What a batch owes at one of its calls. `previous` is the exchange right before it, `later` are
those after it, and `outcome` is how the batch ends. -/
structure Lawful (commits : Bool) (outcome : Except DbError Nat) (previous : Option Exchange)
    (current : Exchange) (later : List Exchange) : Prop where
  /-- A failed execution or commit is followed by exactly one rollback. -/
  undone : ∀ e, current.answer = .error e → current.call ≠ .rollback →
    ∃ answer rest, later = ⟨.rollback, answer⟩ :: rest ∧
      ∀ next ∈ rest.head?, next.call ≠ .rollback
  /-- Nothing else is rolled back. -/
  onlyFailures : current.call = .rollback →
    ∃ failed e, previous = some failed ∧ failed.call ≠ .rollback ∧ failed.answer = .error e
  /-- With commits, every successful execution is followed by one. -/
  committed : commits = true → current.call.executes = true →
    ∀ count, current.answer = .ok count → ∃ answer rest, later = ⟨.commit, answer⟩ :: rest
  /-- Without commits there are none. -/
  uncommitted : commits = false → current.call ≠ .commit
  /-- A failed rollback is the last call, and the outcome holds both errors. -/
  lost : ∀ rollback, current.call = .rollback → current.answer = .error rollback →
    later = [] ∧ ∃ failed cause e, previous = some failed ∧ failed.answer = .error cause ∧
      e.source? = some cause ∧ outcome = .error (.rollbackFailed e rollback)
  /-- After a failed commit, or an error that is not the database's own, the rollback is the last
  call and the batch is interrupted by that error. -/
  fatal : ∀ e, current.answer = .error e →
    current.call = .commit ∨ current.call.executes = true ∧ e.isDatabaseError = false →
    ∃ rollback index? chunk applied, later = [rollbackExchange rollback] ∧
      outcome = .error (afterRollback (.interrupted index? chunk applied e) rollback)
  /-- A batch executes again only after a rejection by the database that was rolled back. -/
  resumed : ∀ e, current.answer = .error e → (∃ next ∈ later, next.call.executes = true) →
    current.call.executes = true ∧ e.isDatabaseError = true ∧
      ∃ rest, later = rollbackExchange (.ok ()) :: rest

section Laws

variable {commits : Bool} {outcome : Except DbError Nat} {previous : Option Exchange}
  {later rest : List Exchange} {call : Call} {e : DbError}

/-- An execution that succeeded owes nothing but the commit behind it, if there are commits. -/
theorem lawful_executed (executes : call.executes = true) (count : Nat)
    (settled : commits = true → ∃ answer rest, later = ⟨.commit, answer⟩ :: rest) :
    Lawful commits outcome previous ⟨call, .ok count⟩ later where
  undone e failed := by cases failed
  onlyFailures rolledBack := absurd rolledBack (Call.ne_rollback_of_executes executes)
  committed mode _ _ _ := settled mode
  uncommitted _ := Call.ne_commit_of_executes executes
  lost rollback rolledBack := absurd rolledBack (Call.ne_rollback_of_executes executes)
  fatal e failed := by cases failed
  resumed e failed := by cases failed

private theorem lawful_committed (mode : commits = true) (count : Nat) :
    Lawful commits outcome previous ⟨.commit, .ok count⟩ later where
  undone e failed := by cases failed
  onlyFailures rolledBack := by cases rolledBack
  committed _ executes := by cases executes
  uncommitted silent := by
    rw [mode] at silent
    cases silent
  lost rollback rolledBack := by cases rolledBack
  fatal e failed := by cases failed
  resumed e failed := by cases failed

/-- A rollback behind a failed call is owed. -/
theorem lawful_rolledBack (failure : call ≠ .rollback) :
    Lawful commits outcome (some ⟨call, .error e⟩) (rollbackExchange (.ok ())) later where
  undone e failed := by cases failed
  onlyFailures _ := ⟨_, e, rfl, failure, rfl⟩
  committed _ executes := by cases executes
  uncommitted _ := Call.noConfusion
  lost rollback _ failed := by cases failed
  fatal e failed := by cases failed
  resumed e failed := by cases failed

/-- The rollback that ends a batch. -/
theorem lawful_ends {fault : DbError} (failure : call ≠ .rollback)
    (holds : fault.source? = some e) (rollback : Except DbError Unit) :
    Lawful commits (.error (afterRollback fault rollback)) (some ⟨call, .error e⟩)
      (rollbackExchange rollback) [] where
  undone _ _ other := absurd rfl other
  onlyFailures _ := ⟨_, e, rfl, failure, rfl⟩
  committed _ executes := by cases executes
  uncommitted _ := Call.noConfusion
  lost lost _ failed := by
    cases rollback with
    | ok => cases failed
    | error other =>
        cases failed
        exact ⟨rfl, _, e, fault, rfl, rfl, holds, rfl⟩
  fatal other _ kind := by
    rcases kind with settles | ⟨executes, -⟩
    · cases settles
    · cases executes
  resumed other _ resumes := by
    obtain ⟨next, member, -⟩ := resumes
    cases member

/-- The database rejects an execution. Only after a successful rollback the batch may go on. -/
theorem lawful_rejected (executes : call.executes = true) (rejected : e.isDatabaseError = true)
    {rollback : Except DbError Unit} (ends : rollback = .ok () ∨ rest = [])
    (proceeds : ∀ next ∈ rest.head?, next.call.executes = true) :
    Lawful commits outcome previous ⟨call, .error e⟩ (rollbackExchange rollback :: rest) where
  undone _ _ _ :=
    ⟨_, rest, rfl, fun next member => Call.ne_rollback_of_executes (proceeds next member)⟩
  onlyFailures rolledBack := absurd rolledBack (Call.ne_rollback_of_executes executes)
  committed _ _ count answered := by cases answered
  uncommitted _ := Call.ne_commit_of_executes executes
  lost _ rolledBack := absurd rolledBack (Call.ne_rollback_of_executes executes)
  fatal other failed kind := by
    cases failed
    rcases kind with settles | ⟨-, foreign⟩
    · exact absurd settles (Call.ne_commit_of_executes executes)
    · rw [rejected] at foreign
      cases foreign
  resumed other failed resumes := by
    cases failed
    refine ⟨executes, rejected, rest, ?_⟩
    rcases ends with rfl | rfl
    · rfl
    · obtain ⟨next, member, again⟩ := resumes
      rw [List.mem_singleton] at member
      rw [member] at again
      cases again

/-- A failure that is not tried again. -/
theorem lawful_fatal {index? : Option Nat} {chunk : ChunkRange} {applied : Nat}
    (failure : call = .commit ∧ commits = true ∨ call.executes = true)
    (rollback : Except DbError Unit) :
    Lawful commits (.error (afterRollback (.interrupted index? chunk applied e) rollback))
      previous ⟨call, .error e⟩ [rollbackExchange rollback] where
  undone _ _ _ := ⟨_, [], rfl, fun next member => by cases member⟩
  onlyFailures rolledBack := by
    rcases failure with ⟨settles, -⟩ | executes
    · cases settles.symm.trans rolledBack
    · exact absurd rolledBack (Call.ne_rollback_of_executes executes)
  committed _ _ count answered := by cases answered
  uncommitted silent := by
    rcases failure with ⟨-, mode⟩ | executes
    · rw [mode] at silent
      cases silent
    · exact Call.ne_commit_of_executes executes
  lost _ rolledBack := by
    rcases failure with ⟨settles, -⟩ | executes
    · cases settles.symm.trans rolledBack
    · exact absurd rolledBack (Call.ne_rollback_of_executes executes)
  fatal other failed _ := by
    cases failed
    exact ⟨rollback, index?, chunk, applied, rfl, rfl⟩
  resumed other _ resumes := by
    obtain ⟨next, member, again⟩ := resumes
    rw [List.mem_singleton] at member
    rw [member] at again
    cases again

end Laws

/-! ### Laws along the calls of a batch -/

/-- The law holds at every exchange of a list that comes after `previous`. -/
def Follow (law : Option Exchange → Exchange → List Exchange → Prop) :
    Option Exchange → List Exchange → Prop
  | _, [] => True
  | previous, current :: later => law previous current later ∧ Follow law (some current) later

private theorem Follow.at_split {law : Option Exchange → Exchange → List Exchange → Prop}
    {previous : Option Exchange} {before later : List Exchange} {current : Exchange}
    (follow : Follow law previous (before ++ current :: later)) :
    law (before.getLast?.or previous) current later := by
  induction before generalizing previous with
  | nil => exact follow.1
  | cons first before inductionHypothesis =>
      have here := inductionHypothesis follow.2
      rw [List.getLast?_cons]
      cases last : before.getLast? with
      | none =>
          rw [last] at here
          exact here
      | some exchange =>
          rw [last] at here
          exact here

/-- What the law says of single exchanges holds of every exchange in the list. -/
theorem Follow.forall_mem {law : Option Exchange → Exchange → List Exchange → Prop}
    {property : Exchange → Prop} (implies : ∀ {previous current later},
      law previous current later → property current) {previous : Option Exchange}
    {calls : List Exchange} (follow : Follow law previous calls) :
    ∀ exchange ∈ calls, property exchange := by
  induction calls generalizing previous with
  | nil => exact fun exchange member => absurd member List.not_mem_nil
  | cons current later inductionHypothesis =>
      exact List.forall_mem_cons.mpr ⟨implies follow.1, inductionHypothesis follow.2⟩

variable {d : Driver σ} {config : ExecutorConfig} {sql : String}

/-- A batch goes on after a success or after a rejection that was rolled back. -/
theorem Task.GoesOn.trial_cases {progress next : Progress} {task : Task} {trial : Trial}
    {tasks : List Task} (goesOn : Task.GoesOn config progress task trial tasks next) :
    (∃ count, trial = .applied count) ∨
      ∃ e, e.isRetryable = true ∧ trial = .failed e (.ok ()) := by
  cases goesOn with
  | applied task count => exact Or.inl ⟨count, rfl⟩
  | single stretch retryable small => exact Or.inr ⟨_, retryable, rfl⟩
  | smaller stretch retryable large => exact Or.inr ⟨_, retryable, rfl⟩
  | isolated range index row rest retryable policy => exact Or.inr ⟨_, retryable, rfl⟩

private theorem Task.source_rejection (task : Task) (applied : Nat) (e : DbError) :
    (task.rejection applied e).source? = some e := by
  cases task <;> rfl

/-- No trial begins with a commit or a rollback. -/
theorem Task.call_executes (task : Task) (sql : String) : (task.call sql).executes = true := by
  cases task <;> rfl

theorem JournalEntry.head_exchanges (entry : JournalEntry) (config : ExecutorConfig) :
    ∃ answer rest, entry.exchanges config = ⟨entry.call, answer⟩ :: rest := by
  unfold JournalEntry.exchanges
  cases entry.trial with
  | applied count => exact ⟨_, _, rfl⟩
  | uncommitted count e rollback => exact ⟨_, _, rfl⟩
  | failed e rollback => exact ⟨_, _, rfl⟩

/-- The calls of a course begin with an execution. -/
theorem course_proceeds (tasks : List Task) (progress : Progress) (conn : σ) :
    ∀ next ∈ ((course d config sql tasks progress conn).journal.flatMap
      (JournalEntry.exchanges config)).head?, next.call.executes = true := by
  have begins : ∀ (task : Task) (trial : Trial) (journal : List JournalEntry),
      ∀ next ∈ ((task.entry sql trial :: journal).flatMap (JournalEntry.exchanges config)).head?,
        next.call.executes = true := by
    intro task trial journal next member
    obtain ⟨answer, rest, split⟩ := (task.entry sql trial).head_exchanges config
    rw [List.flatMap_cons, split, List.cons_append, List.head?_cons] at member
    cases member
    exact task.call_executes sql
  cases tasks with
  | nil =>
      rw [course_nil]
      intro next member
      cases member
  | cons task rest =>
      cases tried : Trial.ofDriver d config (task.execution d sql) conn with
      | mk trial after =>
          cases advanced : task.advance config progress trial with
          | error e =>
              rw [course_stop tried advanced]
              exact begins task trial []
          | ok resumption =>
              rw [course_continue tried advanced]
              exact begins task trial _

/-- The law holds at every call of a course. -/
theorem course_lawful (tasks : List Task) (progress : Progress) (conn : σ)
    (previous : Option Exchange) :
    Follow (Lawful config.commitChunks (course d config sql tasks progress conn).outcome) previous
      ((course d config sql tasks progress conn).journal.flatMap
        (JournalEntry.exchanges config)) := by
  -- `previous` is general because the rest of a course comes after the calls of its first task.
  fun_induction course d config sql tasks progress conn generalizing previous with
  | case1 progress conn => trivial
  | case2 task rest progress conn trial after tried e advanced =>
      have executes := task.call_executes sql
      have failure := Call.ne_rollback_of_executes executes
      have ends : ∀ next ∈ ([] : List Exchange).head?, next.call.executes = true := by
        intro next member
        cases member
      have made := Trial.made tried
      simp only [List.flatMap_singleton, Course.outcome, JournalEntry.exchanges, Task.entry]
      cases Task.stops advanced with
      | uncommitted task count e rollback =>
          cases made with
          | uncommitted mode executed refused undone =>
              exact ⟨lawful_executed executes count fun _ => ⟨_, _, rfl⟩,
                lawful_fatal (Or.inl ⟨rfl, mode⟩) rollback,
                lawful_ends Call.noConfusion rfl rollback, trivial⟩
      | broken task rollback fatal =>
          exact ⟨lawful_fatal (Or.inr executes) rollback, lawful_ends failure rfl rollback, trivial⟩
      | lost task rollback retryable =>
          exact ⟨lawful_rejected executes retryable (Or.inr rfl) ends,
            lawful_ends failure (task.source_rejection _ _) (.error rollback), trivial⟩
      | aborted range index row rest retryable policy =>
          exact ⟨lawful_rejected executes retryable (Or.inr rfl) ends,
            lawful_rolledBack failure, trivial⟩
  | case3 task rest progress conn trial after tried tasks next advanced inductionHypothesis =>
      have executes := task.call_executes sql
      have failure := Call.ne_rollback_of_executes executes
      have proceeds : ∀ exchange ∈ ((course d config sql (tasks ++ rest) next after).journal.flatMap
          (JournalEntry.exchanges config)).head?, exchange.call.executes = true :=
        course_proceeds (tasks ++ rest) next after
      simp only [Course.cons, List.flatMap_cons, JournalEntry.exchanges, Task.entry]
      rcases (Task.goesOn advanced).trial_cases with ⟨count, rfl⟩ | ⟨e, retryable, rfl⟩
      · simp only [Trial.exchanges]
        cases mode : config.commitChunks with
        | true =>
            rw [mode] at inductionHypothesis
            exact ⟨lawful_executed executes count fun _ => ⟨_, _, rfl⟩, lawful_committed rfl 0,
              inductionHypothesis _⟩
        | false =>
            rw [mode] at inductionHypothesis
            exact ⟨lawful_executed executes count Bool.noConfusion, inductionHypothesis _⟩
      · exact ⟨lawful_rejected executes retryable (Or.inl rfl) proceeds,
          lawful_rolledBack failure, inductionHypothesis _⟩

/-- Every driver call of a batch is lawful: each failure is followed by exactly one rollback and
rollbacks stand nowhere else; commits follow every success or there are none; a failed rollback is
the last call, and so is the rollback after a failed commit or after an error that is not the
database's own. So only rejections by the database that were rolled back are tried again. -/
theorem driver_calls_are_disciplined (d : Driver σ) {config : ExecutorConfig}
    (positive : 0 < config.chunkSize) (sql : String) (rows : List Row) (channel : Channel σ)
    {before later : List Exchange} {current : Exchange}
    (split : exchanges d config sql rows channel.conn = before ++ current :: later) :
    Lawful config.commitChunks (ending (run d config sql rows) channel).1 before.getLast? current
      later := by
  obtain ⟨told, ended⟩ := run_ends d sql rows positive channel.conn channel.log
  have follow : Follow
      (Lawful config.commitChunks (batchCourse d config sql rows channel.conn).outcome) none
      (exchanges d config sql rows channel.conn) := by
    rw [exchanges_eq_journal d sql rows positive channel.conn]
    exact course_lawful _ _ _ _
  rw [split] at follow
  have lawful := follow.at_split
  rw [Option.or_none] at lawful
  rw [show channel = ⟨channel.conn, channel.log⟩ from rfl, ended]
  exact lawful

/-- The second record is rejected in its chunk and on its own, and the last rollback fails. -/
theorem driver_calls_are_disciplined_scripted :
    let d := Scripted.driver .qmark Row.describe
    let config : ExecutorConfig := { chunkSize := 2 }
    let rows : List Row := [[.int 1], [.int 2], [.int 3]]
    let script : DriverScript := { bad := [2], rollbacksBeforeFailure := some 1 }
    let channel : Channel ScriptedState := ⟨ScriptedState.start script, #[]⟩
    let calls := exchanges d config "insert" rows channel.conn
    0 < config.chunkSize ∧
      calls.map (fun exchange => (exchange.call.executes, exchange.answer.isOk)) =
        [(true, false), (false, true), (true, true), (false, true), (true, false), (false, false)] ∧
      ∃ before current later, calls = before ++ current :: later ∧ before.length = 4 ∧
        Lawful config.commitChunks (ending (run d config "insert" rows) channel).1 before.getLast?
          current later := by
  intro d config rows script channel calls
  have size : calls.length = 6 := by decide +kernel
  have split : calls = calls.take 4 ++ calls[4] :: calls.drop 5 := by
    rw [List.getElem_cons_drop, List.take_append_drop]
  refine ⟨by decide, by decide +kernel, _, _, _, split, ?_, ?_⟩
  · rw [List.length_take, size]
    rfl
  · exact driver_calls_are_disciplined d (show 0 < config.chunkSize by decide) "insert" rows channel
      split

end Execution

end SqlBind
