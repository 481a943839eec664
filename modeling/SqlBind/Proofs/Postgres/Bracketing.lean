import SqlBind.Postgres.Client
import SqlBind.Postgres.Scripted
import SqlBind.Proofs.Batch.Course

/-!
Owns: how the client brackets its transactions. The requests of a client are noted beside the
server that answers them (`Server.noted`); `Bracketed` says which of them may follow each other, and
every driver call keeps to that.

Main statement: whatever the server answers, statements are prepared and executed inside
transactions only, and exactly one command closes each of these (`transactions_are_bracketed`).
-/

set_option autoImplicit false

namespace SqlBind

variable {σ : Type}

/-- Makes a call, with no rows for the result of a commit or a rollback. -/
def Call.make (d : Driver σ) : Call → EStateM DbError σ Nat
  | one sql row => d.executeOne sql row
  | many sql rows => d.executeMany sql rows
  | rollback => do d.rollback; return 0
  | commit => do d.commit; return 0

/-- The connection after calls in turn, whatever becomes of each. -/
def afterCalls (d : Driver σ) (calls : List Call) (conn : σ) : σ :=
  calls.foldl (fun conn call => (Execution.ending (call.make d) conn).2) conn

namespace Postgres

open Execution (ending ending_bind_ok ending_bind_error)

variable {τ α β : Type}

/-! ### Noting requests -/

/-- A request that was sent, with the answer to it; only executions answer with rows. -/
structure Reply where
  request : Request
  answer : Except ServerFault Nat

/-- A server together with the requests that were sent to it, oldest first. -/
structure Noted (τ : Type) where
  inner : τ
  replies : List Reply

def Noted.noting (request : Request) (rows : α → Nat) (action : EStateM ServerFault τ α) :
    EStateM ServerFault (Noted τ) α := fun n =>
  match action n.inner with
  | .ok a inner => .ok a ⟨inner, n.replies ++ [⟨request, .ok (rows a)⟩]⟩
  | .error fault inner => .error fault ⟨inner, n.replies ++ [⟨request, .error fault⟩]⟩

/-- The server with its requests noted. -/
def Server.noted (s : Server τ) : Server (Noted τ) where
  bracket command := Noted.noting (.bracket command) (fun _ => 0) (s.bracket command)
  prepare sql := Noted.noting (.prepare sql) (fun _ => 0) (s.prepare sql)
  execute sql parameters := Noted.noting (.execute parameters) id (s.execute sql parameters)

def Connection.noting (conn : Connection τ) (earlier : List Reply) : Connection (Noted τ) :=
  ⟨⟨conn.server, earlier⟩, conn.inTransaction⟩

/-- `plain` on `conn` ends in `result` and leaves `after`; so does `noted`, which notes `sent`. -/
structure Sends (plain : EStateM DbError (Connection τ) α)
    (noted : EStateM DbError (Connection (Noted τ)) α) (conn : Connection τ) (sent : List Reply)
    (result : Except DbError α) (after : Connection τ) : Prop where
  plain : ending plain conn = (result, after)
  noted : ∀ earlier, ending noted (conn.noting earlier) = (result, after.noting (earlier ++ sent))

namespace Sends

theorem pure (value : α) (conn : Connection τ) :
    Sends (Pure.pure value) (Pure.pure value) conn [] (.ok value) conn where
  plain := rfl
  noted earlier := by
    rw [List.append_nil]
    rfl

theorem throw (e : DbError) (conn : Connection τ) :
    Sends (MonadExcept.throw e : EStateM DbError (Connection τ) α) (MonadExcept.throw e) conn []
      (.error e) conn where
  plain := rfl
  noted earlier := by
    rw [List.append_nil]
    rfl

/-- What actions in a row send stands in a row. -/
theorem bind {plain : EStateM DbError (Connection τ) α}
    {noted : EStateM DbError (Connection (Noted τ)) α} {next : α → EStateM DbError (Connection τ) β}
    {nextNoted : α → EStateM DbError (Connection (Noted τ)) β} {conn middle after : Connection τ}
    {sent later : List Reply} {value : α} {result : Except DbError β}
    (first : Sends plain noted conn sent (.ok value) middle)
    (second : Sends (next value) (nextNoted value) middle later result after) :
    Sends (plain >>= next) (noted >>= nextNoted) conn (sent ++ later) result after where
  plain := (ending_bind_ok first.plain).trans second.plain
  noted earlier := by
    rw [ending_bind_ok (first.noted earlier), second.noted, List.append_assoc]

/-- After a failure nothing more is sent. -/
theorem bind_error {plain : EStateM DbError (Connection τ) α}
    {noted : EStateM DbError (Connection (Noted τ)) α} {next : α → EStateM DbError (Connection τ) β}
    {nextNoted : α → EStateM DbError (Connection (Noted τ)) β} {conn after : Connection τ}
    {sent : List Reply} {e : DbError} (first : Sends plain noted conn sent (.error e) after) :
    Sends (plain >>= next) (noted >>= nextNoted) conn sent (.error e) after where
  plain := ending_bind_error first.plain
  noted earlier := ending_bind_error (first.noted earlier)

theorem andThen {plain : EStateM DbError (Connection τ) α}
    {noted : EStateM DbError (Connection (Noted τ)) α} {next : EStateM DbError (Connection τ) β}
    {nextNoted : EStateM DbError (Connection (Noted τ)) β} {conn middle after : Connection τ}
    {sent later : List Reply} {value : α} {result : Except DbError β}
    (first : Sends plain noted conn sent (.ok value) middle)
    (second : Sends next nextNoted middle later result after) :
    Sends (plain >>= fun _ => next) (noted >>= fun _ => nextNoted) conn (sent ++ later) result
      after :=
  first.bind second

/-- An action that begins by looking whether a transaction is open. -/
theorem looking (plain : Bool → EStateM DbError (Connection τ) α)
    (noted : Bool → EStateM DbError (Connection (Noted τ)) α) {conn after : Connection τ}
    {sent : List Reply} {result : Except DbError α}
    (rest : Sends (plain conn.inTransaction) (noted conn.inTransaction) conn sent result after) :
    Sends (do plain (← get).inTransaction) (do noted (← get).inTransaction) conn sent result
      after where
  plain := rest.plain
  noted earlier := rest.noted earlier

theorem marking (inTransaction : Bool) (conn : Connection τ) :
    Sends (modify fun c => { c with inTransaction := inTransaction })
      (modify fun c => { c with inTransaction := inTransaction }) conn [] (.ok ())
      { conn with inTransaction := inTransaction } where
  plain := rfl
  noted earlier := by
    rw [List.append_nil]
    rfl

/-- A request is noted with its answer and leaves open what was open. -/
theorem request (sent : Request) (rows : α → Nat) (action : EStateM ServerFault τ α)
    (conn : Connection τ) :
    Sends (Connection.request action) (Connection.request (Noted.noting sent rows action)) conn
      [⟨sent, (ending action conn.server).1.map rows⟩]
      ((ending action conn.server).1.mapError ServerFault.toDbError)
      { conn with server := (ending action conn.server).2 } := by
  constructor
  · simp only [ending, Connection.request]
    cases action conn.server <;> rfl
  · intro earlier
    simp only [ending, Connection.request, Noted.noting, Connection.noting]
    cases action conn.server <;> rfl

end Sends

/-! ### Transactions on the wire -/

namespace Reply

/-- A transaction begins, since the server agreed to that. -/
def opens : Reply → Bool
  | ⟨.bracket .begin, .ok _⟩ => true
  | _ => false

/-- A transaction is to end, whatever the server says to that. -/
def closes : Reply → Bool
  | ⟨.bracket .commit, _⟩ => true
  | ⟨.bracket .rollback, _⟩ => true
  | _ => false

/-- A statement is prepared or executed. -/
def works : Reply → Bool
  | ⟨.prepare _, _⟩ => true
  | ⟨.execute _, _⟩ => true
  | _ => false

variable {reply : Reply}

theorem opens_of_closes (ends : reply.closes = true) : reply.opens = false := by
  obtain ⟨request, answer⟩ := reply
  cases request with
  | bracket command => cases command <;> trivial
  | _ => cases ends

theorem opens_of_works (worked : reply.works = true) : reply.opens = false := by
  obtain ⟨request, answer⟩ := reply
  cases request <;> trivial

theorem closes_of_works (worked : reply.works = true) : reply.closes = false := by
  obtain ⟨request, answer⟩ := reply
  cases request <;> trivial

private theorem not_begin_of_works (worked : reply.works = true) :
    reply.request ≠ .bracket .begin := by
  obtain ⟨request, answer⟩ := reply
  rintro rfl
  cases worked

end Reply

/-- Requests that follow each other rightly, from a state in which a transaction is open or not, and
the state behind them. -/
inductive Bracketed : Bool → List Reply → Bool → Prop where
  | done (opened : Bool) : Bracketed opened [] opened
  | refused {fault : ServerFault} {rest : List Reply} {after : Bool}
      (later : Bracketed false rest after) :
      Bracketed false (⟨.bracket .begin, .error fault⟩ :: rest) after
  | opened {rows : Nat} {rest : List Reply} {after : Bool} (later : Bracketed true rest after) :
      Bracketed false (⟨.bracket .begin, .ok rows⟩ :: rest) after
  | worked {reply : Reply} {rest : List Reply} {after : Bool} (works : reply.works = true)
      (later : Bracketed true rest after) : Bracketed true (reply :: rest) after
  | closed {reply : Reply} {rest : List Reply} {after : Bool} (closes : reply.closes = true)
      (later : Bracketed false rest after) : Bracketed true (reply :: rest) after

/-- A transaction has begun that no request was to end since. -/
def Opened (replies : List Reply) : Prop :=
  ∃ earlier begun since, replies = earlier ++ begun :: since ∧ begun.opens = true ∧
    ∀ reply ∈ since, reply.closes = false

namespace Bracketed

variable {before middle after : Bool} {first second : List Reply} {reply : Reply}

/-- Bracketed requests stay so one after the other. -/
theorem append (left : Bracketed before first middle) (right : Bracketed middle second after) :
    Bracketed before (first ++ second) after := by
  induction left with
  | done opened => exact right
  | refused later inductionHypothesis => exact refused (inductionHypothesis right)
  | opened later inductionHypothesis => exact opened (inductionHypothesis right)
  | worked works later inductionHypothesis => exact worked works (inductionHypothesis right)
  | closed closes later inductionHypothesis => exact closed closes (inductionHypothesis right)

/-- Bracketed requests stay so when they are cut. -/
theorem split (bracketed : Bracketed before (first ++ second) after) :
    ∃ middle, Bracketed before first middle ∧ Bracketed middle second after := by
  induction first generalizing before with
  | nil => exact ⟨before, done before, bracketed⟩
  | cons reply rest inductionHypothesis =>
      cases bracketed with
      | refused later =>
          obtain ⟨middle, left, right⟩ := inductionHypothesis later
          exact ⟨middle, refused left, right⟩
      | opened later =>
          obtain ⟨middle, left, right⟩ := inductionHypothesis later
          exact ⟨middle, opened left, right⟩
      | worked works later =>
          obtain ⟨middle, left, right⟩ := inductionHypothesis later
          exact ⟨middle, worked works left, right⟩
      | closed closes later =>
          obtain ⟨middle, left, right⟩ := inductionHypothesis later
          exact ⟨middle, closed closes left, right⟩

private theorem of_works {replies : List Reply} (all : ∀ reply ∈ replies, reply.works = true) :
    Bracketed true replies true := by
  induction replies with
  | nil => exact done true
  | cons reply rest inductionHypothesis =>
      apply worked (all reply (by simp))
      apply inductionHypothesis
      intro other member
      exact all other (by simp [member])

end Bracketed

theorem opened_cons (reply : Reply) (rest : List Reply) :
    Opened (reply :: rest) ↔
      Opened rest ∨ reply.opens = true ∧ ∀ other ∈ rest, other.closes = false := by
  constructor
  · rintro ⟨earlier, begun, since, split, opens, open_⟩
    rcases List.cons_eq_append_iff.mp split with ⟨rfl, same⟩ | ⟨earlier, rfl, rfl⟩
    · cases same
      exact Or.inr ⟨opens, open_⟩
    · exact Or.inl ⟨earlier, begun, since, rfl, opens, open_⟩
  · rintro (⟨earlier, begun, since, rfl, opens, open_⟩ | ⟨opens, open_⟩)
    · exact ⟨reply :: earlier, begun, since, rfl, opens, open_⟩
    · exact ⟨[], reply, rest, rfl, opens, open_⟩

theorem not_opened_nil : ¬ Opened [] := by
  rintro ⟨earlier, begun, since, split, -⟩
  simp at split

private theorem not_opened_concat (replies : List Reply) {reply : Reply}
    (closes : reply.closes = true) : ¬ Opened (replies ++ [reply]) := by
  induction replies with
  | nil =>
      rw [List.nil_append, opened_cons]
      rintro (empty | ⟨opens, -⟩)
      · exact not_opened_nil empty
      · simp [Reply.opens_of_closes closes] at opens
  | cons first rest inductionHypothesis =>
      rw [List.cons_append, opened_cons]
      rintro (later | ⟨-, open_⟩)
      · exact inductionHypothesis later
      · simp [open_ reply (by simp)] at closes

namespace Bracketed

/-- Whether a transaction is open behind bracketed requests can be read off them. -/
theorem opened_iff {before after : Bool} {replies : List Reply}
    (bracketed : Bracketed before replies after) :
    after = true ↔
      Opened replies ∨ before = true ∧ ∀ reply ∈ replies, reply.closes = false := by
  induction bracketed with
  | done opened => simp [not_opened_nil]
  | refused later inductionHypothesis =>
      simp [inductionHypothesis, opened_cons, Reply.opens]
  | opened later inductionHypothesis =>
      simp [inductionHypothesis, opened_cons, Reply.opens]
  | worked works later inductionHypothesis =>
      simp [inductionHypothesis, opened_cons, Reply.opens_of_works works,
        Reply.closes_of_works works]
  | closed closes later inductionHypothesis =>
      simp [inductionHypothesis, opened_cons, Reply.opens_of_closes closes, closes]

/-- Every transaction that has begun is ended once, unless it is still open. -/
theorem count_closes {before after : Bool} {replies : List Reply}
    (bracketed : Bracketed before replies after) :
    replies.countP Reply.closes + after.toNat = replies.countP Reply.opens + before.toNat := by
  induction bracketed with
  | done opened => rfl
  | refused later inductionHypothesis =>
      simpa [Reply.opens, Reply.closes] using inductionHypothesis
  | opened later inductionHypothesis =>
      rw [List.countP_cons_of_neg (by simp [Reply.closes]), List.countP_cons_of_pos rfl]
      simp only [Bool.toNat_true, Bool.toNat_false] at *
      omega
  | worked works later inductionHypothesis =>
      simpa [Reply.opens_of_works works, Reply.closes_of_works works] using inductionHypothesis
  | closed closes later inductionHypothesis =>
      rw [List.countP_cons_of_pos closes,
        List.countP_cons_of_neg (by simp [Reply.opens_of_closes closes])]
      simp only [Bool.toNat_true, Bool.toNat_false] at *
      omega

section Head

variable {before after : Bool} {rest : List Reply} {reply : Reply}

private theorem inside_of_works (bracketed : Bracketed before (reply :: rest) after)
    (works : reply.works = true) : before = true := by
  cases bracketed with
  | worked => rfl
  | closed => rfl
  | _ => cases works

private theorem inside_of_closes (bracketed : Bracketed before (reply :: rest) after)
    (closes : reply.closes = true) : before = true := by
  cases bracketed with
  | worked => rfl
  | closed => rfl
  | _ => cases closes

/-- A transaction begins where none is open, and is open behind that. -/
theorem of_opens (bracketed : Bracketed before (reply :: rest) after)
    (opens : reply.opens = true) : before = false ∧ Bracketed true rest after := by
  cases bracketed with
  | opened later => exact ⟨rfl, later⟩
  | refused => cases opens
  | worked works => simp [Reply.opens_of_works works] at opens
  | closed closes => simp [Reply.opens_of_closes closes] at opens

end Head

/-- From one beginning that succeeds to another, the first transaction is ended. -/
theorem count_closes_between {before after : Bool} {first second : Reply}
    {between later : List Reply}
    (bracketed : Bracketed before (first :: (between ++ second :: later)) after)
    (begins : first.opens = true) (again : second.opens = true) :
    between.countP Reply.closes = between.countP Reply.opens + 1 := by
  obtain ⟨-, behind⟩ := bracketed.of_opens begins
  obtain ⟨middle, left, right⟩ := behind.split
  have closed : middle = false := (right.of_opens again).1
  simpa [closed] using left.count_closes

end Bracketed

/-! ### What the client sends -/

section Client

variable (s : Server τ) (conn : Connection τ)

/-- What opening a transaction sends: nothing if one is open, and else a request to begin one. -/
inductive Opening (conn : Connection τ) :
    List Reply → Except DbError Unit → Connection τ → Prop where
  | already (opened : conn.inTransaction = true) : Opening conn [] (.ok ()) conn
  | refused (fault : ServerFault) (server : τ) (outside : conn.inTransaction = false) :
      Opening conn [⟨.bracket .begin, .error fault⟩] (.error fault.toDbError) ⟨server, false⟩
  | opened (server : τ) (outside : conn.inTransaction = false) :
      Opening conn [⟨.bracket .begin, .ok 0⟩] (.ok ()) ⟨server, true⟩

/-- Opens a transaction, if it is told that none is open. -/
def openUnless (s : Server τ) (inside : Bool) : EStateM DbError (Connection τ) Unit := do
  if !inside then
    Connection.request (s.bracket .begin)
    modify fun c => { c with inTransaction := true }

/-- A transaction is begun only if none is open. -/
theorem openTransaction_sends : ∃ sent result after,
    Sends (Connection.openTransaction s) (Connection.openTransaction s.noted) conn sent result
      after ∧ Opening conn sent result after := by
  have chosen : ∃ sent result after,
      Sends (openUnless s conn.inTransaction) (openUnless s.noted conn.inTransaction) conn sent
        result after ∧ Opening conn sent result after := by
    cases inside : conn.inTransaction with
    | true => exact ⟨_, _, _, Sends.pure () conn, .already inside⟩
    | false =>
        have begins := Sends.request (.bracket .begin) (fun _ => 0) (s.bracket .begin) conn
        rw [inside] at begins
        cases answered : ending (s.bracket .begin) conn.server with
        | mk answer server =>
            rw [answered] at begins
            cases answer with
            | error fault => exact ⟨_, _, _, begins.bind_error, .refused fault server inside⟩
            | ok =>
                exact ⟨_, _, _, begins.andThen (Sends.marking true ⟨server, false⟩),
                  .opened server inside⟩
  obtain ⟨sent, result, after, sends, opening⟩ := chosen
  exact ⟨sent, result, after, sends.looking (openUnless s) (openUnless s.noted), opening⟩

/-- Sends a closing command, if it is told that a transaction is open. -/
def closeIf (s : Server τ) (command : Bracket) (inside : Bool) :
    EStateM DbError (Connection τ) Unit := do
  if inside then
    modify fun c => { c with inTransaction := false }
    Connection.request (s.bracket command)

/-- Ending a transaction keeps to the brackets and begins none. -/
theorem closeTransaction_sends {command : Bracket} (closes : command ≠ .begin) :
    ∃ sent result after,
      Sends (Connection.closeTransaction s command) (Connection.closeTransaction s.noted command)
        conn sent result after ∧
      Bracketed conn.inTransaction sent after.inTransaction ∧
      ∀ reply ∈ sent, reply.request ≠ .bracket .begin := by
  have chosen : ∃ sent result after,
      Sends (closeIf s command conn.inTransaction) (closeIf s.noted command conn.inTransaction)
        conn sent result after ∧
      Bracketed conn.inTransaction sent after.inTransaction ∧
      ∀ reply ∈ sent, reply.request ≠ .bracket .begin := by
    cases inside : conn.inTransaction with
    | false =>
        refine ⟨_, _, _, Sends.pure () conn, ?_, by simp⟩
        rw [inside]
        exact .done false
    | true =>
        have sends := (Sends.marking false conn).andThen
          (Sends.request (.bracket command) (fun _ => 0) (s.bracket command) _)
        refine ⟨_, _, _, sends, ?_, by simpa using closes⟩
        apply Bracketed.closed _ (Bracketed.done false)
        cases command with
        | begin => exact absurd rfl closes
        | _ => rfl
  obtain ⟨sent, result, after, sends, bracketed⟩ := chosen
  exact ⟨sent, result, after, sends.looking (closeIf s command) (closeIf s.noted command),
    bracketed⟩

/-- An action that prepares or executes statements and does nothing else. -/
def WorksOnly (plain : EStateM DbError (Connection τ) α)
    (noted : EStateM DbError (Connection (Noted τ)) α) : Prop :=
  ∀ conn, ∃ sent result after, Sends plain noted conn sent result after ∧
    after.inTransaction = conn.inTransaction ∧ ∀ reply ∈ sent, reply.works = true

/-- Working statements in a row do nothing else either. -/
theorem WorksOnly.bind {plain : EStateM DbError (Connection τ) α}
    {noted : EStateM DbError (Connection (Noted τ)) α} {next : α → EStateM DbError (Connection τ) β}
    {nextNoted : α → EStateM DbError (Connection (Noted τ)) β} (first : WorksOnly plain noted)
    (second : ∀ value, WorksOnly (next value) (nextNoted value)) :
    WorksOnly (plain >>= next) (noted >>= nextNoted) := by
  intro conn
  obtain ⟨sent, result, middle, sends, inside, works⟩ := first conn
  cases result with
  | error e => exact ⟨sent, .error e, middle, sends.bind_error, inside, works⟩
  | ok value =>
      obtain ⟨later, result, after, goesOn, stays, worksOn⟩ := second value middle
      refine ⟨sent ++ later, result, after, sends.bind goesOn, stays.trans inside, ?_⟩
      intro reply member
      rcases List.mem_append.mp member with here | there
      · exact works reply here
      · exact worksOn reply there

private theorem worksOnly_pure (value : α) :
    WorksOnly (τ := τ) (Pure.pure value) (Pure.pure value) :=
  fun conn => ⟨_, _, _, Sends.pure value conn, rfl, by simp⟩

theorem worksOnly_prepare (sql : String) :
    WorksOnly (Connection.request (s.prepare sql)) (Connection.request (s.noted.prepare sql)) :=
  fun conn => ⟨_, _, _, Sends.request (.prepare sql) (fun _ => 0) (s.prepare sql) conn, rfl,
    by simp [Reply.works]⟩

theorem worksOnly_executePrepared (sql : String) (types : List ColumnType) (row : Row) :
    WorksOnly (Connection.executePrepared s sql types row)
      (Connection.executePrepared s.noted sql types row) := by
  intro conn
  unfold Connection.executePrepared
  cases Connection.parameters types row with
  | error e => exact ⟨_, _, _, Sends.throw e conn, rfl, by simp⟩
  | ok octets =>
      exact ⟨_, _, _, Sends.request (.execute octets) id (s.execute sql octets) conn, rfl,
        by simp [Reply.works]⟩

theorem worksOnly_executeRows (sql : String) (types : List ColumnType) (total : Nat)
    (rows : List Row) :
    WorksOnly (Connection.executeRows s sql types total rows)
      (Connection.executeRows s.noted sql types total rows) := by
  induction rows generalizing total with
  | nil => exact worksOnly_pure total
  | cons row rest inductionHypothesis =>
      apply (worksOnly_executePrepared s sql types row).bind
      intro count
      exact inductionHypothesis (total + count)

/-- What a call sends: it keeps to the brackets, and it ends with a transaction that does not
begin. -/
def CallSends (plain : EStateM DbError (Connection τ) α)
    (noted : EStateM DbError (Connection (Noted τ)) α) : Prop :=
  ∀ conn, ∃ sent result after, Sends plain noted conn sent result after ∧
    Bracketed conn.inTransaction sent after.inTransaction ∧
    ∀ reply ∈ sent, reply.request = .bracket .begin → reply.opens = false → sent = [reply]

/-- Working behind the opening of a transaction. -/
theorem WorksOnly.callSends {plain : EStateM DbError (Connection τ) α}
    {noted : EStateM DbError (Connection (Noted τ)) α} (works : WorksOnly plain noted) :
    CallSends (do Connection.openTransaction s; plain)
      (do Connection.openTransaction s.noted; noted) := by
  intro conn
  obtain ⟨sent, result, middle, opens, opening⟩ := openTransaction_sends s conn
  cases opening with
  | refused fault server outside =>
      refine ⟨_, _, _, opens.bind_error, ?_, by simp⟩
      rw [outside]
      exact .refused (.done false)
  | already inside =>
      obtain ⟨later, result, after, sends, stays, all⟩ := works conn
      refine ⟨_, _, _, opens.bind sends, ?_, ?_⟩
      · rw [stays, inside]
        exact Bracketed.of_works all
      · intro reply member begins
        have worked := all reply (by simpa using member)
        exact absurd begins (Reply.not_begin_of_works worked)
  | opened server outside =>
      obtain ⟨later, result, after, sends, stays, all⟩ := works ⟨server, true⟩
      refine ⟨_, _, _, opens.bind sends, ?_, ?_⟩
      · rw [stays, outside]
        exact .opened (Bracketed.of_works all)
      · intro reply member begins refused
        rcases List.mem_append.mp member with here | there
        · obtain rfl := List.mem_singleton.mp here
          cases refused
        · exact absurd begins (Reply.not_begin_of_works (all reply there))

/-- Every call of the driver keeps to the brackets. -/
theorem make_sends (call : Call) :
    CallSends (call.make (driver s)) (call.make (driver s.noted)) := by
  have closing : ∀ command ≠ Bracket.begin,
      CallSends (do Connection.closeTransaction s command; return 0)
        (do Connection.closeTransaction s.noted command; return 0) := by
    intro command closes conn
    obtain ⟨sent, result, after, sends, bracketed, ends⟩ := closeTransaction_sends s conn closes
    refine ⟨sent, result.map fun _ => 0, after, ?_, bracketed, ?_⟩
    · cases result with
      | error e => exact sends.bind_error
      | ok =>
          have whole := sends.andThen (Sends.pure 0 after)
          rwa [List.append_nil] at whole
    · intro reply member begins
      exact absurd begins (ends reply member)
  cases call with
  | one sql row =>
      apply WorksOnly.callSends
      apply (worksOnly_prepare s sql).bind
      intro types
      exact worksOnly_executePrepared s sql types row
  | many sql rows =>
      apply WorksOnly.callSends
      apply (worksOnly_prepare s sql).bind
      intro types
      exact worksOnly_executeRows s sql types 0 rows
  | commit => exact closing .commit (by decide)
  | rollback => exact closing .rollback (by decide)

private theorem afterCalls_sends (calls : List Call) : ∃ sent,
    (∀ earlier, afterCalls (driver s.noted) calls (conn.noting earlier) =
      (afterCalls (driver s) calls conn).noting (earlier ++ sent)) ∧
    Bracketed conn.inTransaction sent (afterCalls (driver s) calls conn).inTransaction := by
  induction calls generalizing conn with
  | nil =>
      refine ⟨[], ?_, .done _⟩
      intro earlier
      rw [List.append_nil]
      rfl
  | cons call rest inductionHypothesis =>
      obtain ⟨sent, result, middle, sends, bracketed, -⟩ := make_sends s call conn
      obtain ⟨later, noted, goesOn⟩ := inductionHypothesis middle
      have plain : afterCalls (driver s) (call :: rest) conn =
          afterCalls (driver s) rest middle := by
        rw [afterCalls, List.foldl_cons, sends.plain]
        rfl
      refine ⟨sent ++ later, ?_, ?_⟩
      · intro earlier
        rw [afterCalls, List.foldl_cons, sends.noted, plain, ← List.append_assoc]
        exact noted (earlier ++ sent)
      · rw [plain]
        exact bracketed.append goesOn

end Client

/-- What was sent to a server during calls on a connection without an open transaction. -/
def wire (s : Server τ) (start : τ) (calls : List Call) : List Reply :=
  (afterCalls (driver s.noted) calls ⟨⟨start, []⟩, false⟩).server.replies

/-- Whatever the server answers, and whatever calls the client gets, its transactions are bracketed.
Statements are prepared and executed behind a beginning that succeeded and that nothing ended since.
Only such a transaction is ended, by one command: between two beginnings that succeeded stand one
such command and one more for each further beginning in between. A call whose transaction does not
begin sends nothing else. The client counts itself in a transaction exactly while one is open. -/
theorem transactions_are_bracketed (s : Server τ) (start : τ) (calls : List Call) :
    let conn := afterCalls (driver s) calls ⟨start, false⟩
    let replies := wire s start calls
    afterCalls (driver s.noted) calls ⟨⟨start, []⟩, false⟩ = conn.noting replies ∧
      (∀ before reply later, replies = before ++ reply :: later → reply.works = true →
        Opened before) ∧
      (∀ before reply later, replies = before ++ reply :: later → reply.closes = true →
        Opened before ∧ ¬ Opened (before ++ [reply])) ∧
      (∀ before first between second later,
        replies = before ++ first :: (between ++ second :: later) →
        first.opens = true → second.opens = true →
        between.countP Reply.closes = between.countP Reply.opens + 1) ∧
      (∀ call, ∃ sent, wire s start (calls ++ [call]) = replies ++ sent ∧
        ∀ reply ∈ sent, reply.request = .bracket .begin → reply.opens = false → sent = [reply]) ∧
      (conn.inTransaction = true ↔ Opened replies) := by
  intro conn replies
  obtain ⟨sent, noted, bracketed⟩ := afterCalls_sends s ⟨start, false⟩ calls
  have ends : afterCalls (driver s.noted) calls ⟨⟨start, []⟩, false⟩ = conn.noting sent := noted []
  have told : replies = sent := by
    show (afterCalls (driver s.noted) calls ⟨⟨start, []⟩, false⟩).server.replies = sent
    rw [ends]
    rfl
  rw [told]
  -- The first request of what is left shows whether a transaction is open before it.
  refine ⟨ends, ?_, ?_, ?_, ?_, ?_⟩
  · intro before reply later split works
    rw [split] at bracketed
    obtain ⟨middle, left, right⟩ := bracketed.split
    simpa using left.opened_iff.mp (right.inside_of_works works)
  · intro before reply later split closes
    rw [split] at bracketed
    obtain ⟨middle, left, right⟩ := bracketed.split
    refine ⟨?_, not_opened_concat before closes⟩
    simpa using left.opened_iff.mp (right.inside_of_closes closes)
  · intro before first between second later split begins again
    rw [split] at bracketed
    obtain ⟨middle, -, right⟩ := bracketed.split
    exact right.count_closes_between begins again
  · intro call
    obtain ⟨made, result, after, sends, -, stops⟩ := make_sends s call conn
    refine ⟨made, ?_, stops⟩
    rw [wire, afterCalls, List.foldl_append]
    show (ending (call.make (driver s.noted))
      (afterCalls (driver s.noted) calls ⟨⟨start, []⟩, false⟩)).2.server.replies = sent ++ made
    rw [ends, sends.noted]
    rfl
  · simpa using bracketed.opened_iff

/-- A rejected commit ends its transaction; the rollback after it sends nothing. -/
theorem transactions_are_bracketed_scripted :
    let report : ServerReport := default
    let start := ServerState.start { brackets := [(.commit, report)] }
    let calls : List Call :=
      [.rollback, .one "insert" [], .commit, .rollback, .many "insert" [[], []], .rollback]
    (wire Scripted.server start calls).map
        (fun reply => (reply.opens, reply.works, reply.closes, reply.answer.isOk)) =
      [(true, false, false, true), (false, true, false, true), (false, true, false, true),
        (false, false, true, false), (true, false, false, true), (false, true, false, true),
        (false, true, false, true), (false, true, false, true), (false, false, true, true)] ∧
      ¬ Opened (wire Scripted.server start calls) := by
  intro report start calls
  obtain ⟨-, -, -, -, -, flag⟩ := transactions_are_bracketed Scripted.server start calls
  refine ⟨by decide +kernel, ?_⟩
  rw [← flag]
  decide +kernel

end Postgres

end SqlBind
