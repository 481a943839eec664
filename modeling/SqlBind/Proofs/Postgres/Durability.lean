import SqlBind.Proofs.Batch.Accounting
import SqlBind.Proofs.Postgres.Bracketing

/-!
Owns: what a batch makes durable on a PostgreSQL server, read off the requests and their answers. Of
the executions that the server carried out, those count that lie between a beginning and a commit it
accepted (`durableRows`). The account that the requests add up to (`account`) makes the client a
transactional driver, and on bracketed requests what it counts as committed is what is durable.

Main statement: whatever the server answers, a batch with commits reports exactly the durable rows
and leaves no transaction open (`batch_reports_durable_rows`).
-/

set_option autoImplicit false

namespace SqlBind

namespace Execution

private theorem Task.make_call {σ : Type} (d : Driver σ) (sql : String) (task : Task) :
    (task.call sql).make d = task.execution d sql := by
  cases task <;> rfl

end Execution

namespace Postgres

open Execution

variable {τ α β : Type}

/-! ### Durable rows -/

namespace Reply

/-- The rows that an execution affected, and none for any other request. -/
def rows : Reply → Nat
  | ⟨.execute _, .ok count⟩ => count
  | _ => 0

/-- A transaction is committed, since the server agreed to that. -/
def commits : Reply → Bool
  | ⟨.bracket .commit, .ok _⟩ => true
  | _ => false

end Reply

/-- The first request that is to end a transaction is a commit that the server accepts. -/
def Kept (replies : List Reply) : Prop :=
  ∃ between commit rest, replies = between ++ commit :: rest ∧ commit.commits = true ∧
    ∀ reply ∈ between, reply.closes = false

private theorem not_kept_nil : ¬ Kept [] := by
  rintro ⟨between, commit, rest, split, -⟩
  simp at split

theorem kept_cons (reply : Reply) (rest : List Reply) :
    Kept (reply :: rest) ↔ reply.commits = true ∨ reply.closes = false ∧ Kept rest := by
  constructor
  · rintro ⟨between, commit, later, split, commits, open_⟩
    rcases List.cons_eq_append_iff.mp split with ⟨rfl, same⟩ | ⟨between, rfl, rfl⟩
    · cases same
      exact Or.inl commits
    · refine Or.inr ⟨open_ reply (by simp), between, commit, later, rfl, commits, ?_⟩
      intro other member
      exact open_ other (by simp [member])
  · rintro (commits | ⟨open_, between, commit, later, rfl, commits, all⟩)
    · exact ⟨[], reply, rest, rfl, commits, by simp⟩
    · exact ⟨reply :: between, commit, later, rfl, commits, by simpa using ⟨open_, all⟩⟩

instance decidableOpened : (replies : List Reply) → Decidable (Opened replies)
  | [] => .isFalse not_opened_nil
  | reply :: rest =>
      have := decidableOpened rest
      decidable_of_iff _ (opened_cons reply rest).symm

instance decidableKept : (replies : List Reply) → Decidable (Kept replies)
  | [] => .isFalse not_kept_nil
  | reply :: rest =>
      have := decidableKept rest
      decidable_of_iff _ (kept_cons reply rest).symm

/-- Of the requests that were sent behind `before`, the rows of the executions that lie between a
beginning and a commit that the server accepted. -/
def durableRows (before : List Reply) : List Reply → Nat
  | [] => 0
  | reply :: later =>
      (if Opened before ∧ Kept later then reply.rows else 0) + durableRows (before ++ [reply]) later

/-! ### The account of the requests -/

namespace Reply

/-- What a request does to an account. Executions count whether a transaction is open or not. -/
def enter (ledger : Ledger) : Reply → Ledger
  | ⟨.bracket .begin, .ok _⟩ => ledger.discard
  | ⟨.bracket .begin, .error _⟩ => ledger
  | ⟨.bracket .commit, .ok _⟩ => ledger.commit
  | ⟨.bracket .commit, .error _⟩ => ledger.discard
  | ⟨.bracket .rollback, _⟩ => ledger.discard
  | ⟨.prepare _, _⟩ => ledger
  | ⟨.execute _, .ok count⟩ => ledger.add count
  | ⟨.execute _, .error _⟩ => ledger

variable {reply : Reply}

/-- Work adds the rows that it affected to the pending ones. -/
theorem enter_of_works (worked : reply.works = true) (ledger : Ledger) :
    enter ledger reply = ledger.add reply.rows := by
  obtain ⟨request, answer⟩ := reply
  cases request with
  | bracket command => cases worked
  | prepare sql => rfl
  | execute parameters => cases answer <;> rfl

private theorem enter_of_closes (ends : reply.closes = true) (ledger : Ledger) :
    enter ledger reply = if reply.commits then ledger.commit else ledger.discard := by
  obtain ⟨request, answer⟩ := reply
  cases request with
  | bracket command => cases command <;> cases answer <;> first | rfl | cases ends
  | _ => cases ends

private theorem rows_of_closes (ends : reply.closes = true) : reply.rows = 0 := by
  obtain ⟨request, answer⟩ := reply
  cases request with
  | bracket command => rfl
  | _ => cases ends

private theorem commits_of_works (worked : reply.works = true) : reply.commits = false := by
  obtain ⟨request, answer⟩ := reply
  cases request with
  | bracket command => cases worked
  | _ => rfl

end Reply

def enterAll (ledger : Ledger) (replies : List Reply) : Ledger := replies.foldl Reply.enter ledger

/-- What requests in turn add up to. -/
def account (replies : List Reply) : Ledger := enterAll Ledger.empty replies

/-- Later requests are entered into the account of the earlier ones. -/
theorem account_append (earlier later : List Reply) :
    account (earlier ++ later) = enterAll (account earlier) later := List.foldl_append

/-- The rows that requests in turn affected, whether they became durable or not. -/
def rowsOf : List Reply → Nat
  | [] => 0
  | reply :: rest => reply.rows + rowsOf rest

private theorem rowsOf_append (earlier later : List Reply) :
    rowsOf (earlier ++ later) = rowsOf earlier + rowsOf later := by
  induction earlier with
  | nil => exact (Nat.zero_add _).symm
  | cons reply rest inductionHypothesis =>
      rw [List.cons_append, rowsOf, rowsOf, inductionHypothesis, Nat.add_assoc]

/-- Work in a row adds up its rows. -/
theorem enterAll_works {replies : List Reply} (works : ∀ reply ∈ replies, reply.works = true)
    (ledger : Ledger) : enterAll ledger replies = ledger.add (rowsOf replies) := by
  induction replies generalizing ledger with
  | nil => rfl
  | cons reply rest inductionHypothesis =>
      have later := inductionHypothesis (fun other member => works other (by simp [member]))
      show enterAll (Reply.enter ledger reply) rest = _
      rw [Reply.enter_of_works (works reply (by simp)), later]
      simp [rowsOf, Ledger.add, Nat.add_assoc]

theorem opened_concat (before : List Reply) (reply : Reply) :
    Opened (before ++ [reply]) ↔ reply.opens = true ∨ Opened before ∧ reply.closes = false := by
  induction before with
  | nil => simp [opened_cons, not_opened_nil]
  | cons first rest inductionHypothesis =>
      rw [List.cons_append, opened_cons, opened_cons, inductionHypothesis]
      simp only [List.mem_append, List.mem_singleton, or_imp, forall_and, forall_eq]
      rw [or_and_right, or_assoc, and_assoc]

/-- What the account counts as committed: the pending rows that it began with, if these are kept,
and the durable rows. -/
theorem Bracketed.committed {inside after : Bool} {replies : List Reply}
    (bracketed : Bracketed inside replies after) (before : List Reply)
    (opened : Opened before ↔ inside = true) (ledger : Ledger) :
    (enterAll ledger replies).committed =
      ledger.committed + (if inside = true ∧ Kept replies then ledger.pending else 0) +
        durableRows before replies := by
  -- What is pending so far waits for the first closing command; `opened` says whether it counts.
  induction bracketed generalizing before ledger with
  | done inside => simp [enterAll, not_kept_nil, durableRows]
  | @refused fault rest after later inductionHypothesis =>
      have still : Opened (before ++ [⟨.bracket .begin, .error fault⟩]) ↔ false = true := by
        rw [opened_concat, opened]
        simp [Reply.opens]
      have whole := inductionHypothesis _ still ledger
      simpa [enterAll, Reply.enter, durableRows, Reply.rows] using whole
  | @opened rows rest after later inductionHypothesis =>
      have begun : Opened (before ++ [⟨.bracket .begin, .ok rows⟩]) ↔ true = true := by
        rw [opened_concat]
        simp [Reply.opens]
      have whole := inductionHypothesis _ begun ledger.discard
      simpa [enterAll, Reply.enter, durableRows, Reply.rows, Ledger.discard] using whole
  | @worked reply rest after works later inductionHypothesis =>
      have still : Opened (before ++ [reply]) ↔ true = true := by
        rw [opened_concat, opened]
        simp [Reply.closes_of_works works]
      have whole := inductionHypothesis _ still (ledger.add reply.rows)
      have same : Kept (reply :: rest) ↔ Kept rest := by
        simp [kept_cons, Reply.commits_of_works works, Reply.closes_of_works works]
      show (enterAll (Reply.enter ledger reply) rest).committed = _
      rw [Reply.enter_of_works works, whole]
      simp only [durableRows, opened, same, true_and, Ledger.add]
      split <;> omega
  | @closed reply rest after closes later inductionHypothesis =>
      have closed : Opened (before ++ [reply]) ↔ false = true := by
        rw [opened_concat]
        simp [Reply.opens_of_closes closes, closes]
      have whole := inductionHypothesis _ closed (Reply.enter ledger reply)
      have kept : Kept (reply :: rest) ↔ reply.commits = true := by
        simp [kept_cons, closes]
      show (enterAll (Reply.enter ledger reply) rest).committed = _
      rw [whole]
      simp only [durableRows, kept, Reply.rows_of_closes closes, Reply.enter_of_closes closes]
      cases reply.commits <;> simp [Ledger.commit, Ledger.discard]

/-! ### The client as a transactional driver -/

/-- The rows that the open transaction holds, and those that are durable, by the requests noted. -/
def wireCounters : Counters (Connection (Noted τ)) where
  pending conn := if conn.inTransaction then (account conn.server.replies).pending else 0
  committed conn := (account conn.server.replies).committed

/-- If the action ends well, the server has affected the rows that its value tells, but for those
that were affected before. -/
def Tells (affected : Nat) (told : α → Nat) (noted : EStateM DbError (Connection (Noted τ)) α) :
    Prop :=
  ∀ conn value after, ending noted conn = (.ok value, after) →
    affected + rowsOf after.server.replies = told value + rowsOf conn.server.replies

theorem Tells.bind {affected : Nat} {told : α → Nat} {nextTold : β → Nat}
    {noted : EStateM DbError (Connection (Noted τ)) α}
    {next : α → EStateM DbError (Connection (Noted τ)) β} (first : Tells affected told noted)
    (second : ∀ value, Tells (told value) nextTold (next value)) :
    Tells affected nextTold (noted >>= next) := by
  intro conn result after ended
  obtain ⟨value, middle, begun, rest⟩ := of_ending_bind_ok ended
  have here := first conn value middle begun
  have there := second value middle result after rest
  omega

private theorem tells_request (affected : Nat) (sent : Request) (rows : α → Nat)
    (action : EStateM ServerFault τ α) :
    Tells affected (fun value => affected + Reply.rows ⟨sent, .ok (rows value)⟩)
      (Connection.request (Noted.noting sent rows action)) := by
  intro conn value after ended
  have sends := Sends.request sent rows action ⟨conn.server.inner, conn.inTransaction⟩
  have same := (sends.noted conn.server.replies).symm.trans ended
  cases answered : ending action conn.server.inner with
  | mk answer server =>
      rw [answered] at same
      cases answer with
      | error fault => cases same
      | ok result =>
          cases same
          simp [Connection.noting, rowsOf_append, rowsOf, Except.map, Nat.add_comm,
            Nat.add_left_comm]

section Client

variable (s : Server τ)

private theorem tells_prepare (sql : String) :
    Tells 0 (fun _ => 0) (Connection.request (s.noted.prepare sql)) :=
  tells_request 0 (.prepare sql) (fun _ => 0) (s.prepare sql)

private theorem tells_executePrepared (affected : Nat) (sql : String) (types : List ColumnType)
    (row : Row) :
    Tells affected (fun count => affected + count)
      (Connection.executePrepared s.noted sql types row) := by
  unfold Connection.executePrepared
  cases Connection.parameters types row with
  | error e =>
      intro conn value after ended
      cases ended
  | ok octets => exact tells_request affected (.execute octets) id (s.execute sql octets)

private theorem tells_executeRows (sql : String) (types : List ColumnType) (total : Nat)
    (rows : List Row) :
    Tells total id (Connection.executeRows s.noted sql types total rows) := by
  induction rows generalizing total with
  | nil =>
      intro conn value after ended
      cases ended
      rfl
  | cons row rest inductionHypothesis =>
      apply (tells_executePrepared s total sql types row).bind
      intro count
      exact inductionHypothesis (total + count)

/-- Working adds what it tells to the account, if it ends well. -/
theorem WorksOnly.adds {plain : EStateM DbError (Connection τ) Nat}
    {noted : EStateM DbError (Connection (Noted τ)) Nat} (works : WorksOnly plain noted)
    (tells : Tells 0 id noted) (conn : Connection τ) (earlier : List Reply) :
    ∃ (sent : List Reply) (result : Except DbError Nat) (after : Connection τ),
      ending noted (conn.noting earlier) = (result, after.noting sent) ∧
      after.inTransaction = conn.inTransaction ∧
      (account sent).committed = (account earlier).committed ∧
      ∀ count, result = .ok count →
        (account sent).pending = (account earlier).pending + count := by
  obtain ⟨sent, result, after, sends, stays, all⟩ := works conn
  refine ⟨earlier ++ sent, result, after, sends.noted earlier, stays, ?_, ?_⟩
  · rw [account_append, enterAll_works all]
    rfl
  · rintro count rfl
    have told := tells _ _ _ (sends.noted earlier)
    have affected : rowsOf sent = count := by
      simp only [Connection.noting, rowsOf_append, id_eq] at told
      omega
    rw [account_append, enterAll_works all, affected]
    rfl

/-- Executions behind the opening of a transaction count what they tell. -/
theorem WorksOnly.countedBy {plain : EStateM DbError (Connection τ) Nat}
    {noted : EStateM DbError (Connection (Noted τ)) Nat} (works : WorksOnly plain noted)
    (tells : Tells 0 id noted) :
    wireCounters.CountedBy (do Connection.openTransaction s.noted; noted) := by
  have counted : ∀ conn : Connection (Noted τ), ∃ result after,
      ending (do Connection.openTransaction s.noted; noted) conn = (result, after) ∧
      wireCounters.committed after = wireCounters.committed conn ∧
      ∀ count, result = .ok count →
        wireCounters.pending after = wireCounters.pending conn + count := by
    intro conn
    obtain ⟨begun, answer, middle, opens, opening⟩ :=
      openTransaction_sends s ⟨conn.server.inner, conn.inTransaction⟩
    have first := opens.noted conn.server.replies
    cases opening with
    | refused fault server outside =>
        refine ⟨_, _, ending_bind_error first, ?_, by simp⟩
        simp [wireCounters, Connection.noting, account_append, enterAll, Reply.enter]
    | already inside =>
        obtain ⟨sent, result, after, ended, stays, committed, pending⟩ :=
          works.adds tells ⟨conn.server.inner, conn.inTransaction⟩ conn.server.replies
        rw [List.append_nil] at first
        refine ⟨result, _, (ending_bind_ok first).trans ended, committed, ?_⟩
        intro count counts
        have open_ : conn.inTransaction = true := inside
        simp [wireCounters, Connection.noting, stays, open_, pending count counts]
    | opened server outside =>
        obtain ⟨sent, result, after, ended, stays, committed, pending⟩ :=
          works.adds tells ⟨server, true⟩ (conn.server.replies ++ [⟨.bracket .begin, .ok 0⟩])
        have clean : account (conn.server.replies ++ [⟨.bracket .begin, .ok 0⟩]) =
            (account conn.server.replies).discard := account_append _ _
        rw [clean] at committed pending
        refine ⟨result, _, (ending_bind_ok first).trans ended, committed, ?_⟩
        intro count counts
        have closed : conn.inTransaction = false := outside
        simp [wireCounters, Connection.noting, stays, closed, pending count counts, Ledger.discard]
  constructor
  · intro conn count after called
    obtain ⟨result, reached, ended, committed, pending⟩ := counted conn
    cases ended.symm.trans (ending_of_ok called)
    exact ⟨pending count rfl, committed⟩
  · intro conn e after called
    obtain ⟨result, reached, ended, committed, -⟩ := counted conn
    cases ended.symm.trans (ending_of_error called)
    exact committed

/-- A closing command that is sent leaves no transaction open. -/
theorem closeTransaction_cases (command : Bracket) (conn : Connection (Noted τ)) :
    conn.inTransaction = false ∧
        ending (Connection.closeTransaction s.noted command) conn = (.ok (), conn) ∨
      conn.inTransaction = true ∧ ∃ (answer : Except ServerFault Unit) (server : τ),
        ending (Connection.closeTransaction s.noted command) conn =
          (answer.mapError ServerFault.toDbError,
            ⟨⟨server, conn.server.replies ++ [⟨.bracket command, answer.map fun _ => 0⟩]⟩,
              false⟩) := by
  obtain ⟨⟨inner, replies⟩, inTransaction⟩ := conn
  cases inTransaction with
  | false => exact Or.inl ⟨rfl, rfl⟩
  | true =>
      have sends := Sends.request (.bracket command) (fun _ => 0) (s.bracket command)
        ⟨inner, false⟩
      exact Or.inr ⟨rfl, (ending (s.bracket command) inner).1, (ending (s.bracket command) inner).2,
        sends.noted replies⟩

/-- Closing leaves no transaction open. Only an accepted commit makes the pending rows durable. -/
theorem closeTransaction_counts {command : Bracket} (closes : command ≠ .begin)
    {conn after : Connection (Noted τ)} {result : Except DbError Unit}
    (ended : ending (Connection.closeTransaction s.noted command) conn = (result, after)) :
    after.inTransaction = false ∧
      wireCounters.committed after = wireCounters.committed conn +
        if command = .commit ∧ result.isOk = true then wireCounters.pending conn else 0 := by
  rcases closeTransaction_cases s command conn with
    ⟨outside, nothing⟩ | ⟨inside, answer, server, sent⟩
  · rw [nothing] at ended
    cases ended
    simp [wireCounters, outside]
  · rw [sent] at ended
    cases ended
    refine ⟨rfl, ?_⟩
    simp only [wireCounters, inside, account_append, if_true]
    cases command with
    | begin => exact absurd rfl closes
    | rollback => rfl
    | commit => cases answer <;> rfl

private theorem pending_outside {conn : Connection (Noted τ)}
    (outside : conn.inTransaction = false) : wireCounters.pending conn = 0 := by
  simp [wireCounters, outside]

private theorem driver_transactional : Transactional (driver s.noted) wireCounters where
  one sql row := by
    apply WorksOnly.countedBy
    · apply (worksOnly_prepare s sql).bind
      intro types
      exact worksOnly_executePrepared s sql types row
    · apply (tells_prepare s sql).bind
      intro types
      have tells := tells_executePrepared s 0 sql types row
      simp only [Nat.zero_add] at tells
      exact tells
  many sql rows := by
    apply WorksOnly.countedBy
    · apply (worksOnly_prepare s sql).bind
      intro types
      exact worksOnly_executeRows s sql types 0 rows
    · apply (tells_prepare s sql).bind
      intro types
      exact tells_executeRows s sql types 0 rows
  rollback_ok undone := by
    have counts := closeTransaction_counts s (by decide) (ending_of_ok undone)
    exact ⟨pending_outside counts.1, by simpa using counts.2⟩
  rollback_error lost := by
    have counts := closeTransaction_counts s (by decide) (ending_of_error lost)
    simpa using counts.2
  commit_ok settled := by
    have counts := closeTransaction_counts s (by decide) (ending_of_ok settled)
    exact ⟨by simpa [Except.isOk, Except.toBool] using counts.2, pending_outside counts.1⟩
  commit_error refused := by
    have counts := closeTransaction_counts s (by decide) (ending_of_error refused)
    simpa [Except.isOk, Except.toBool] using counts.2

/-! ### Batches on the wire -/

/-- Ending a transaction leaves none open, whatever the server answers. -/
theorem closeTransaction_closes (command : Bracket) (closes : command ≠ .begin)
    (conn : Connection τ) :
    ∃ sent result after,
      Sends (Connection.closeTransaction s command) (Connection.closeTransaction s.noted command)
        conn sent result after ∧
      Bracketed conn.inTransaction sent after.inTransaction ∧ after.inTransaction = false := by
  obtain ⟨sent, result, after, sends, bracketed, -⟩ := closeTransaction_sends s conn closes
  exact ⟨sent, result, after, sends, bracketed,
    (closeTransaction_counts s closes (sends.noted [])).1⟩

/-- A trial sends the same whether its requests are noted or not, and keeps to the brackets. With
commits it leaves no transaction open. -/
theorem trial_sends (config : ExecutorConfig) (sql : String) (task : Task) (conn : Connection τ) :
    ∃ sent trial after,
      Trial.ofDriver (driver s) config (task.execution (driver s) sql) conn = (trial, after) ∧
      (∀ earlier, Trial.ofDriver (driver s.noted) config (task.execution (driver s.noted) sql)
        (conn.noting earlier) = (trial, after.noting (earlier ++ sent))) ∧
      Bracketed conn.inTransaction sent after.inTransaction ∧
      (config.commitChunks = true → after.inTransaction = false) := by
  obtain ⟨sent, result, middle, executes, works, -⟩ := make_sends s (task.call sql) conn
  rw [Task.make_call, Task.make_call] at executes
  cases result with
  | error e =>
      obtain ⟨undoing, rollback, after, undoes, closing, closed⟩ :=
        closeTransaction_closes s .rollback (by decide) middle
      refine ⟨sent ++ undoing, .failed e rollback, after, ?_, ?_, works.append closing,
        fun _ => closed⟩
      · exact (Trial.Made.failed executes.plain undoes.plain).ofDriver_eq
      · intro earlier
        rw [← List.append_assoc]
        exact (Trial.Made.failed (executes.noted earlier) (undoes.noted _)).ofDriver_eq
  | ok count =>
      cases mode : config.commitChunks with
      | false =>
          refine ⟨sent, .applied count, middle, ?_, ?_, works, by simp⟩
          · exact (Trial.Made.pending mode executes.plain).ofDriver_eq
          · intro earlier
            exact (Trial.Made.pending mode (executes.noted earlier)).ofDriver_eq
      | true =>
          obtain ⟨committing, answer, settled, commits, closing, closed⟩ :=
            closeTransaction_closes s .commit (by decide) middle
          cases answer with
          | ok =>
              refine ⟨sent ++ committing, .applied count, settled, ?_, ?_, works.append closing,
                fun _ => closed⟩
              · exact (Trial.Made.committed mode executes.plain commits.plain).ofDriver_eq
              · intro earlier
                rw [← List.append_assoc]
                exact (Trial.Made.committed mode (executes.noted earlier)
                  (commits.noted _)).ofDriver_eq
          | error e =>
              -- The refused commit has closed the transaction, so nothing is sent to undo it.
              obtain ⟨undoing, rollback, after, undoes, ending_, open_⟩ :=
                closeTransaction_closes s .rollback (by decide) settled
              refine ⟨sent ++ committing ++ undoing, .uncommitted count e rollback, after, ?_, ?_,
                (works.append closing).append ending_, fun _ => open_⟩
              · exact (Trial.Made.uncommitted mode executes.plain commits.plain
                  undoes.plain).ofDriver_eq
              · intro earlier
                rw [← List.append_assoc, ← List.append_assoc]
                exact (Trial.Made.uncommitted mode (executes.noted earlier) (commits.noted _)
                  (undoes.noted _)).ofDriver_eq

/-- The course of a batch is the same whether its requests are noted or not. With commits it keeps
to the brackets and leaves no transaction open. -/
theorem course_sends (config : ExecutorConfig) (sql : String) (tasks : List Task)
    (progress : Progress) (conn : Connection τ) :
    ∃ sent,
      (∀ earlier, course (driver s.noted) config sql tasks progress (conn.noting earlier) =
        ⟨(course (driver s) config sql tasks progress conn).journal,
          (course (driver s) config sql tasks progress conn).result,
          (course (driver s) config sql tasks progress conn).conn.noting (earlier ++ sent)⟩) ∧
      Bracketed conn.inTransaction sent
        (course (driver s) config sql tasks progress conn).conn.inTransaction ∧
      (config.commitChunks = true → conn.inTransaction = false →
        (course (driver s) config sql tasks progress conn).conn.inTransaction = false) := by
  fun_induction course (driver s) config sql tasks progress conn with
  | case1 progress conn =>
      refine ⟨[], ?_, .done _, fun _ outside => outside⟩
      intro earlier
      rw [course_nil, List.append_nil]
  | case2 task rest progress conn trial after tried e advanced =>
      obtain ⟨sent, told, reached, plain, noted, bracketed, closed⟩ :=
        trial_sends s config sql task conn
      cases plain.symm.trans tried
      exact ⟨sent, fun earlier => course_stop (noted earlier) advanced, bracketed,
        fun commits _ => closed commits⟩
  | case3 task rest progress conn trial after tried tasks next advanced inductionHypothesis =>
      obtain ⟨sent, told, reached, plain, noted, bracketed, closed⟩ :=
        trial_sends s config sql task conn
      cases plain.symm.trans tried
      obtain ⟨later, same, goesOn, ends⟩ := inductionHypothesis
      refine ⟨sent ++ later, ?_, bracketed.append goesOn, fun commits _ => ends commits
        (closed commits)⟩
      intro earlier
      rw [course_continue (noted earlier) advanced, same, ← List.append_assoc]
      rfl

end Client

/-- What the account of bracketed requests counts as committed is durable. -/
theorem Bracketed.account_committed {after : Bool} {replies : List Reply}
    (bracketed : Bracketed false replies after) :
    (account replies).committed = durableRows [] replies := by
  have whole := bracketed.committed [] (by simp [not_opened_nil]) Ledger.empty
  simpa [account, Ledger.empty] using whole

/-- What a batch sends to a server on a connection without an open transaction. -/
def batchWire (s : Server τ) (config : ExecutorConfig) (sql : String) (rows : List Row)
    (start : τ) : List Reply :=
  (ending (run (driver s.noted) config sql rows) ⟨⟨⟨start, []⟩, false⟩, #[]⟩).2.conn.server.replies

/-- Whatever the server answers, a batch with commits on a connection without an open transaction
leaves none open. It reports, by its count or by its error, the rows of the executions that lie
between a beginning and a commit that the server accepted. -/
theorem batch_reports_durable_rows (s : Server τ) {config : ExecutorConfig}
    (positive : 0 < config.chunkSize) (commits : config.commitChunks = true) (sql : String)
    (rows : List Row) (start : τ) (log : Array Log.Event) :
    let ended := ending (run (driver s) config sql rows) ⟨⟨start, false⟩, log⟩
    let noted := ending (run (driver s.noted) config sql rows) ⟨⟨⟨start, []⟩, false⟩, log⟩
    let replies := batchWire s config sql rows start
    noted.1 = ended.1 ∧ noted.2.conn = ended.2.conn.noting replies ∧
      ended.2.conn.inTransaction = false ∧ ¬ Opened replies ∧
      reportedRows ended.1 = some (durableRows [] replies) := by
  intro ended noted replies
  let conn : Connection τ := ⟨start, false⟩
  let fresh : Connection (Noted τ) := ⟨⟨start, []⟩, false⟩
  let plainly := batchCourse (driver s) config sql rows conn
  obtain ⟨sent, same, bracketed, closed⟩ :=
    course_sends s config sql (Task.ofBatch config rows) Progress.start conn
  have twin : batchCourse (driver s.noted) config sql rows fresh =
      ⟨plainly.journal, plainly.result, plainly.conn.noting sent⟩ := same []
  obtain ⟨told, plain⟩ := run_ends (driver s) sql rows positive conn log
  obtain ⟨toldNoted, ran⟩ := run_ends (driver s.noted) sql rows positive fresh log
  obtain ⟨toldWire, wired⟩ := run_ends (driver s.noted) sql rows positive fresh #[]
  have ends : ended = (plainly.outcome, ⟨plainly.conn, told⟩) := plain
  have endsNoted : noted = (plainly.outcome, ⟨plainly.conn.noting sent, toldNoted⟩) := by
    rw [twin] at ran
    exact ran
  have wire : replies = sent := by
    rw [twin] at wired
    show (ending (run (driver s.noted) config sql rows) ⟨fresh, #[]⟩).2.conn.server.replies = sent
    rw [wired]
    rfl
  have clean : wireCounters.pending fresh = 0 := rfl
  have accounted : Accounted wireCounters config 0
      (batchCourse (driver s.noted) config sql rows fresh) :=
    (driver_transactional s).accounted_batch rows clean
  obtain ⟨reported, isReported, durable⟩ := accounted.reported commits
  rw [twin] at isReported durable
  have counted : durableRows [] sent = reported := by
    rw [← bracketed.account_committed]
    exact durable.trans (Nat.zero_add reported)
  rw [ends, endsNoted, wire, counted]
  have outside : plainly.conn.inTransaction = false := closed commits rfl
  refine ⟨rfl, rfl, outside, ?_, isReported⟩
  intro opened
  have inside := bracketed.opened_iff.mpr (Or.inl opened)
  rw [closed commits rfl] at inside
  cases inside

/-- The last record is rejected and the rollback after it fails. Three executions succeed, but one
of them in the transaction that is not committed. -/
theorem batch_reports_durable_rows_scripted :
    let report : ServerReport := default
    let start := ServerState.start
      { types := [("insert", [.int8])], bad := [(signedOctets 8 4, report)],
        brackets := [(.rollback, report)] }
    let config : ExecutorConfig := { chunkSize := 2, failurePolicy := .isolate }
    let rows : List Row := [[.int 1], [.int 2], [.int 3], [.int 4]]
    let replies := batchWire Scripted.server config "insert" rows start
    let ended := ending (run (driver Scripted.server) config "insert" rows) ⟨⟨start, false⟩, #[]⟩
    0 < config.chunkSize ∧ config.commitChunks = true ∧ reportedRows ended.1 = some 2 ∧
      ended.2.conn.inTransaction = false ∧ rowsOf replies = 3 := by
  intro report start config rows replies ended
  obtain ⟨-, -, outside, -, reported⟩ := batch_reports_durable_rows Scripted.server
    (show 0 < config.chunkSize by decide) (show config.commitChunks = true by rfl) "insert" rows
    start #[]
  have durable : durableRows [] replies = 2 := by decide +kernel
  rw [durable] at reported
  exact ⟨by decide, rfl, reported, outside, by decide +kernel⟩

end Postgres

end SqlBind
