import SqlBind.Proofs.Batch.Agreement
import SqlBind.Proofs.Compiler.Faithful
import SqlBind.Session

/-!
Owns: the driver calls of a session. An action is run twice, as it is and on a driver that notes its
calls; `Makes` says that it ends alike both times and which calls were noted, whatever the logs
hold. There is one rule for each way of combining actions, for connections and sessions alike.

Main statements: sending chunks in the open transaction (`sendChunks_makes`) and executing once
(`runOne_makes`) do to the driver what `Sent` and `Ran` say, and a session sends a batch in the open
transaction the same way (`writeManyAtomic_makes`).
-/

set_option autoImplicit false

namespace SqlBind

open Execution (ending ending_bind_ok ending_bind_error afterRollback)
open Execution.Trial (rollbackExchange)

variable {σ α β : Type}

/-! ### Actions and the calls they make -/

section Makes

variable {γ γ' τ τ' : Type}

/-- Whatever the log holds, `action` on `state` ends in `result` and leaves `after`. -/
def EndsAs (logging : γ → Array Log.Event → τ) (action : EStateM DbError τ α) (state : γ)
    (result : Except DbError α) (after : γ) : Prop :=
  ∀ log, ∃ told, ending action (logging state log) = (result, logging after told)

/-- `plain` on `state` ends in `result` and leaves `after`; so does `noted`, which adds the calls
`made` to those noted before. -/
structure Makes (logging : γ → Array Log.Event → τ) (logging' : γ' → Array Log.Event → τ')
    (noting : γ → Array Exchange → γ') (plain : EStateM DbError τ α) (noted : EStateM DbError τ' α)
    (state : γ) (made : List Exchange) (result : Except DbError α) (after : γ) : Prop where
  plain : EndsAs logging plain state result after
  noted : ∀ earlier,
    EndsAs logging' noted (noting state earlier) result (noting after (earlier ++ made.toArray))

variable {logging : γ → Array Log.Event → τ} {logging' : γ' → Array Log.Event → τ'}
  {noting : γ → Array Exchange → γ'}

theorem EndsAs.bind {action : EStateM DbError τ α} {next : α → EStateM DbError τ β}
    {state middle after : γ} {value : α} {result : Except DbError β}
    (first : EndsAs logging action state (.ok value) middle)
    (second : EndsAs logging (next value) middle result after) :
    EndsAs logging (action >>= next) state result after := by
  intro log
  obtain ⟨told, first⟩ := first log
  obtain ⟨later, second⟩ := second told
  exact ⟨later, (ending_bind_ok first).trans second⟩

theorem EndsAs.bind_error {action : EStateM DbError τ α} {next : α → EStateM DbError τ β}
    {state after : γ} {e : DbError} (first : EndsAs logging action state (.error e) after) :
    EndsAs logging (action >>= next) state (.error e) after := by
  intro log
  obtain ⟨told, first⟩ := first log
  exact ⟨told, ending_bind_error first⟩

namespace Makes

theorem pure (value : α) (state : γ) :
    Makes logging logging' noting (Pure.pure value) (Pure.pure value) state [] (.ok value)
      state where
  plain log := ⟨log, rfl⟩
  noted earlier log := ⟨log, by rw [Array.append_empty]; rfl⟩

theorem throw (e : DbError) (state : γ) :
    Makes logging logging' noting (MonadExcept.throw e : EStateM DbError τ α)
      (MonadExcept.throw e) state [] (.error e) state where
  plain log := ⟨log, rfl⟩
  noted earlier log := ⟨log, by rw [Array.append_empty]; rfl⟩

/-- What actions in a row call stands in a row. -/
theorem bind {plain : EStateM DbError τ α} {noted : EStateM DbError τ' α}
    {next : α → EStateM DbError τ β} {nextNoted : α → EStateM DbError τ' β}
    {state middle after : γ} {made later : List Exchange} {value : α} {result : Except DbError β}
    (first : Makes logging logging' noting plain noted state made (.ok value) middle)
    (second : Makes logging logging' noting (next value) (nextNoted value) middle later result
      after) :
    Makes logging logging' noting (plain >>= next) (noted >>= nextNoted) state (made ++ later)
      result after where
  plain := first.plain.bind second.plain
  noted earlier := by
    have joined := (first.noted earlier).bind (second.noted (earlier ++ made.toArray))
    have same : earlier ++ made.toArray ++ later.toArray = earlier ++ (made ++ later).toArray := by
      simp
    rw [same] at joined
    exact joined

theorem andThen {plain : EStateM DbError τ α} {noted : EStateM DbError τ' α}
    {next : EStateM DbError τ β} {nextNoted : EStateM DbError τ' β} {state middle after : γ}
    {made later : List Exchange} {value : α} {result : Except DbError β}
    (first : Makes logging logging' noting plain noted state made (.ok value) middle)
    (second : Makes logging logging' noting next nextNoted middle later result after) :
    Makes logging logging' noting (plain >>= fun _ => next) (noted >>= fun _ => nextNoted) state
      (made ++ later) result after :=
  first.bind second

/-- After a failure nothing more is called. -/
theorem bind_error {plain : EStateM DbError τ α} {noted : EStateM DbError τ' α}
    {next : α → EStateM DbError τ β} {nextNoted : α → EStateM DbError τ' β}
    {state after : γ} {made : List Exchange} {e : DbError}
    (first : Makes logging logging' noting plain noted state made (.error e) after) :
    Makes logging logging' noting (plain >>= next) (noted >>= nextNoted) state made (.error e)
      after where
  plain := first.plain.bind_error
  noted earlier := (first.noted earlier).bind_error

end Makes

end Makes

/-! ### Connections -/

namespace Channel

/-- What an action on a connection makes. -/
abbrev Makes (plain : Action σ α) (noted : Action (Recorded σ) α) (conn : σ)
    (made : List Exchange) (result : Except DbError α) (after : σ) : Prop :=
  SqlBind.Makes Channel.mk Channel.mk Recorded.mk plain noted conn made result after

theorem emit_makes (event : Log.Event) (conn : σ) :
    Makes (emit event) (emit event) conn [] (.ok ()) conn where
  plain log := ⟨log.push event, rfl⟩
  noted earlier log := ⟨log.push event, by rw [Array.append_empty]; rfl⟩

/-- An attempt is one call, and its answer is the value. -/
theorem attempt_makes (call : Call) (rows : α → Nat) {action : EStateM DbError σ α}
    {conn after : σ} {answer : Except DbError α} (answered : ending action conn = (answer, after)) :
    Makes (attempt action) (attempt (Recorded.noting call rows action)) conn
      [⟨call, answer.map rows⟩] (.ok answer) after := by
  constructor
  · intro log
    have tried := Execution.Ends.attempt action conn log
    rw [answered] at tried
    exact tried
  · intro earlier log
    have tried := Execution.Ends.attempt (Recorded.noting call rows action) ⟨conn, earlier⟩ log
    rw [Execution.ending_noting, answered] at tried
    simpa using tried

private theorem attempt_count_makes (call : Call) {action : EStateM DbError σ Nat} {conn after : σ}
    {answer : Except DbError Nat} (answered : ending action conn = (answer, after)) :
    Makes (attempt action) (attempt (Recorded.noting call id action)) conn
      [⟨call, answer⟩] (.ok answer) after := by
  have tried := attempt_makes call id answered
  rw [Except.map_id] at tried
  exact tried

theorem ending_perform {call : EStateM DbError σ α} {conn after : σ} {result : Except DbError α}
    (ended : ending call conn = (result, after)) (log : Array Log.Event) :
    ending (perform call) ⟨conn, log⟩ = (result, ⟨after, log⟩) := by
  simp only [ending, perform] at ended ⊢
  cases answer : call conn <;> simp_all

/-- Performing a call is that call, and its failure is passed on. -/
theorem perform_makes (call : Call) (rows : α → Nat) {action : EStateM DbError σ α}
    {conn after : σ} {answer : Except DbError α} (answered : ending action conn = (answer, after)) :
    Makes (perform action) (perform (Recorded.noting call rows action)) conn
      [⟨call, answer.map rows⟩] answer after := by
  constructor
  · intro log
    exact ⟨log, ending_perform answered log⟩
  · intro earlier log
    refine ⟨log, ending_perform ?_ log⟩
    rw [Execution.ending_noting, answered]
    simp

/-- The rollback after a failure is one call, and its failure goes into the error. -/
theorem rollbackAfter_makes (d : Driver σ) (e : DbError) (conn : σ) :
    Makes (Execution.rollbackAfter d e) (Execution.rollbackAfter d.recorded e) conn
      [rollbackExchange (ending d.rollback conn).1]
      (.ok (afterRollback e (ending d.rollback conn).1)) (ending d.rollback conn).2 := by
  cases undone : ending d.rollback conn with
  | mk rollback after =>
      have tried : Makes (attempt d.rollback) (attempt d.recorded.rollback) conn
          [rollbackExchange rollback] (.ok rollback) after :=
        attempt_makes .rollback (fun _ => 0) undone
      unfold Execution.rollbackAfter
      cases rollback with
      | ok => exact tried.bind (SqlBind.Makes.pure e after)
      | error lost => exact tried.bind ((emit_makes _ after).bind (SqlBind.Makes.pure _ after))

end Channel

/-! ### Executions in the open transaction -/

namespace Execution

/-- What sending rows in chunks does to the driver: all chunks succeed one after the other, or one
fails and everything is rolled back. -/
inductive Sent (d : Driver σ) (sql : String) (chunkSize : Nat) :
    Nat → Nat → List Row → σ → List Exchange → Except DbError Nat → σ → Prop where
  | done (start applied : Nat) (conn : σ) :
      Sent d sql chunkSize start applied [] conn [] (.ok applied) conn
  | sent {start applied count : Nat} {rows : List Row} {conn middle after : σ}
      {later : List Exchange} {result : Except DbError Nat} (nonempty : rows ≠ [])
      (executed : ending (d.executeMany sql (rows.take chunkSize)) conn = (.ok count, middle))
      (rest : Sent d sql chunkSize (start + (rows.take chunkSize).length) (applied + count)
        (rows.drop chunkSize) middle later result after) :
      Sent d sql chunkSize start applied rows conn
        (⟨.many sql (rows.take chunkSize), .ok count⟩ :: later) result after
  | failed {start applied : Nat} {rows : List Row} {conn middle after : σ} {e : DbError}
      {rollback : Except DbError Unit} (nonempty : rows ≠ [])
      (executed : ending (d.executeMany sql (rows.take chunkSize)) conn = (.error e, middle))
      (undone : ending d.rollback middle = (rollback, after)) :
      Sent d sql chunkSize start applied rows conn
        [⟨.many sql (rows.take chunkSize), .error e⟩, rollbackExchange rollback]
        (.error (afterRollback
          (.interrupted none ⟨start, start + (rows.take chunkSize).length⟩ 0 e) rollback)) after

theorem sendChunks_makes (d : Driver σ) (sql : String) {chunkSize : Nat}
    (positive : 0 < chunkSize) (start applied : Nat) (rows : List Row) (conn : σ) :
    ∃ made result after,
      Channel.Makes (sendChunks d sql chunkSize positive start applied rows)
        (sendChunks d.recorded sql chunkSize positive start applied rows) conn made result after ∧
      Sent d sql chunkSize start applied rows conn made result after := by
  -- By recursion on the rows that are left, as `sendChunks` itself.
  by_cases empty : rows = []
  · subst empty
    refine ⟨[], .ok applied, conn, ?_, .done start applied conn⟩
    unfold sendChunks
    exact Makes.pure applied conn
  · unfold sendChunks
    simp only [empty, dite_false]
    cases executed : ending (d.executeMany sql (rows.take chunkSize)) conn with
    | mk answer middle =>
        have tried := Channel.attempt_count_makes (.many sql (rows.take chunkSize)) executed
        cases answer with
        | ok count =>
            obtain ⟨later, result, after, makes, sent⟩ := sendChunks_makes d sql positive
              (start + (rows.take chunkSize).length) (applied + count) (rows.drop chunkSize) middle
            exact ⟨_, result, after, (Channel.emit_makes _ conn).bind (tried.bind makes),
              .sent empty executed sent⟩
        | error e =>
            have undoing := Channel.rollbackAfter_makes d
              (.interrupted none ⟨start, start + (rows.take chunkSize).length⟩ 0 e) middle
            exact ⟨_, _, _, (Channel.emit_makes _ conn).bind
              (tried.bind (undoing.bind (Makes.throw _ _))), .failed empty executed rfl⟩
termination_by rows.length
decreasing_by
  have nonempty := List.length_pos_iff.mpr empty
  simp only [List.length_drop]
  omega

/-- What a single execution does to the driver: it succeeds, or it fails and everything is rolled
back. -/
inductive Ran (d : Driver σ) (sql : String) (row : Row) (conn : σ) :
    List Exchange → Except DbError Nat → σ → Prop where
  | succeeded {count : Nat} {after : σ}
      (executed : ending (d.executeOne sql row) conn = (.ok count, after)) :
      Ran d sql row conn [⟨.one sql row, .ok count⟩] (.ok count) after
  | failed {middle after : σ} {e : DbError} {rollback : Except DbError Unit}
      (executed : ending (d.executeOne sql row) conn = (.error e, middle))
      (undone : ending d.rollback middle = (rollback, after)) :
      Ran d sql row conn [⟨.one sql row, .error e⟩, rollbackExchange rollback]
        (.error (afterRollback e rollback)) after

theorem runOne_makes (d : Driver σ) (sql : String) (row : Row) (conn : σ) :
    ∃ made result after,
      Channel.Makes (runOne d sql row) (runOne d.recorded sql row) conn made result after ∧
      Ran d sql row conn made result after := by
  have tells := Channel.emit_makes (.executing sql row.length) conn
  unfold runOne
  cases executed : ending (d.executeOne sql row) conn with
  | mk answer middle =>
      have tried := Channel.attempt_count_makes (.one sql row) executed
      cases answer with
      | ok count =>
          exact ⟨_, _, _, tells.bind (tried.bind (Makes.pure count middle)), .succeeded executed⟩
      | error e =>
          have undoing := Channel.rollbackAfter_makes d e middle
          exact ⟨_, _, _, tells.bind (tried.bind (undoing.bind (Makes.throw _ _))),
            .failed executed rfl⟩

end Execution

/-! ### Sessions -/

namespace Session

def onConn (s : Session σ) (conn : σ) : Session σ := { s with channel := ⟨conn, s.channel.log⟩ }

def logging (s : Session σ) (log : Array Log.Event) : Session σ :=
  { s with channel := ⟨s.channel.conn, log⟩ }

/-- The session on a driver that notes its calls, with some noted before. -/
def noting (s : Session σ) (earlier : Array Exchange) : Session (Recorded σ) :=
  ⟨s.driver.recorded, s.config, s.compiler, ⟨⟨s.channel.conn, earlier⟩, s.channel.log⟩⟩

/-- What an action on a session makes. -/
abbrev Makes (plain : SessionAction σ α) (noted : SessionAction (Recorded σ) α) (s : Session σ)
    (made : List Exchange) (result : Except DbError α) (after : Session σ) : Prop :=
  SqlBind.Makes logging logging noting plain noted s made result after

/-- The calls that reach the driver while an action runs, oldest first. -/
def calls (action : SessionAction (Recorded σ) α) (s : Session σ) : List Exchange :=
  (ending action (s.noting #[])).2.channel.conn.exchanges.toList

/-- The session stores only what compiling gives, and its chunks hold records. -/
structure Sound (s : Session σ) : Prop where
  faithful : s.compiler.Faithful
  positive : 0 < s.config.executor.chunkSize

/-- A session opens with chunks that hold records, in the driver's own convention unless the
settings name another. -/
theorem withConfig_ok {d : Driver σ} {conn : σ} {config : SessionConfig} {s : Session σ}
    (opened : withConfig d conn config = .ok s) :
    0 < config.executor.chunkSize ∧
      s = ⟨d, config, Compiler.withCache (config.paramStyle.getD d.style) config.compileCache,
        ⟨conn, #[]⟩⟩ := by
  unfold withConfig SessionConfig.validate ExecutorConfig.validate at opened
  by_cases zero : config.executor.chunkSize = 0
  · rw [if_pos zero] at opened
    cases opened
  · rw [if_neg zero] at opened
    cases opened
    exact ⟨Nat.pos_of_ne_zero zero, rfl⟩

/-- Every session that opens is sound. -/
theorem sound_withConfig {d : Driver σ} {conn : σ} {config : SessionConfig} {s : Session σ}
    (opened : withConfig d conn config = .ok s) : s.Sound := by
  obtain ⟨positive, rfl⟩ := withConfig_ok opened
  exact ⟨Compiler.faithful_withCache _ _, positive⟩

/-- What every operation leaves of a session: all but its connection, its log and its store. -/
structure Continues (s after : Session σ) : Prop where
  driver : after.driver = s.driver
  config : after.config = s.config
  style : after.style = s.style
  faithful : s.compiler.Faithful → after.compiler.Faithful

variable {s : Session σ}

theorem Continues.refl (s : Session σ) : s.Continues s := ⟨rfl, rfl, rfl, id⟩

theorem Continues.trans {middle after : Session σ} (first : s.Continues middle)
    (second : middle.Continues after) : s.Continues after where
  driver := second.driver.trans first.driver
  config := second.config.trans first.config
  style := second.style.trans first.style
  faithful := second.faithful ∘ first.faithful

theorem Continues.sound {after : Session σ} (continues : s.Continues after) (sound : s.Sound) :
    after.Sound :=
  ⟨continues.faithful sound.faithful, continues.config ▸ sound.positive⟩

theorem Continues.logging {after : Session σ} (continues : s.Continues after)
    (log : Array Log.Event) : s.Continues (after.logging log) :=
  ⟨continues.driver, continues.config, continues.style, continues.faithful⟩

theorem continues_onConn (s : Session σ) (conn : σ) : s.Continues (s.onConn conn) :=
  ⟨rfl, rfl, rfl, id⟩

theorem continues_compile (s : Session σ) (sql : String) :
    s.Continues { s with compiler := (s.compiler.compile sql).2 } :=
  ⟨rfl, rfl, s.compiler.compile_style sql, fun faithful => Compiler.faithful_compile faithful sql⟩

theorem ending_onChannel {action : Driver σ → Action σ α} {result : Except DbError α}
    {channel : Channel σ} (ended : ending (action s.driver) s.channel = (result, channel)) :
    ending (onChannel action) s = (result, { s with channel := channel }) := by
  simp only [ending, onChannel] at ended ⊢
  cases answer : action s.driver s.channel <;> simp_all

theorem ending_compile_stored (s : Session σ) (sql : String) :
    ending (compile sql) s = ((s.compiler.compile sql).1,
      { s with compiler := (s.compiler.compile sql).2 }) := by
  simp only [ending, compile]
  cases compiled : s.compiler.compile sql with
  | mk answer compiler => cases answer <;> rfl

/-- With a faithful store, compiling in a session gives what compiling gives. -/
theorem ending_compile (s : Session σ) (faithful : s.compiler.Faithful) (sql : String) :
    ending (compile sql) s = (SqlBind.compile sql s.style,
      { s with compiler := (s.compiler.compile sql).2 }) := by
  rw [ending_compile_stored, Compiler.compile_fst faithful sql]
  rfl

namespace Makes

variable {made : List Exchange} {result : Except DbError α} {after : Session σ}
  {plain : SessionAction σ α} {noted : SessionAction (Recorded σ) α}

theorem ends (makes : Makes plain noted s made result after) :
    ∃ told, ending plain s = (result, after.logging told) :=
  makes.plain s.channel.log

/-- The calls that an action makes are those that reach the driver. -/
theorem calls_eq (makes : Makes plain noted s made result after) : calls noted s = made := by
  obtain ⟨told, ended⟩ := makes.noted #[] s.channel.log
  have same : (s.noting #[]).logging s.channel.log = s.noting #[] := rfl
  rw [same] at ended
  rw [calls, ended]
  simp [logging, noting]

theorem onChannel {action : Driver σ → Action σ α} {notedAction : Driver (Recorded σ) →
    Action (Recorded σ) α} {conn : σ}
    (makes : Channel.Makes (action s.driver) (notedAction s.driver.recorded) s.channel.conn made
      result conn) :
    Makes (Session.onChannel action) (Session.onChannel notedAction) s made result
      (s.onConn conn) where
  plain log := by
    obtain ⟨told, ended⟩ := makes.plain log
    exact ⟨told, ending_onChannel ended⟩
  noted earlier log := by
    obtain ⟨told, ended⟩ := makes.noted earlier log
    exact ⟨told, ending_onChannel ended⟩

theorem check {checked answer : Except DbError α} (answered : checked = answer) (s : Session σ) :
    Makes (Session.check checked) (Session.check checked) s [] answer s := by
  subst answered
  cases checked with
  | ok value => exact SqlBind.Makes.pure value s
  | error e => exact SqlBind.Makes.throw e s

/-- Compiling makes no call, whatever the store holds. -/
theorem compileStored (s : Session σ) (sql : String) :
    Makes (Session.compile sql) (Session.compile sql) s [] (s.compiler.compile sql).1
      { s with compiler := (s.compiler.compile sql).2 } := by
  constructor
  · intro log
    exact ⟨log, ending_compile_stored (s.logging log) sql⟩
  · intro earlier log
    rw [Array.append_empty]
    exact ⟨log, ending_compile_stored ((s.noting earlier).logging log) sql⟩

theorem compile (faithful : s.compiler.Faithful) {sql : String} {answer : Except DbError Statement}
    (answered : SqlBind.compile sql s.style = answer) :
    Makes (Session.compile sql) (Session.compile sql) s [] answer
      { s with compiler := (s.compiler.compile sql).2 } := by
  have stored := compileStored s sql
  rw [Compiler.compile_fst faithful sql] at stored
  exact answered ▸ stored

/-- An action that begins with a check: either this fails, or the rest decides. -/
theorem exists_check {checked : Except DbError α} {next : α → SessionAction σ β}
    {nextNoted : α → SessionAction (Recorded σ) β}
    {property : List Exchange → Except DbError β → Session σ → Prop}
    (refused : ∀ e, checked = .error e → property [] (.error e) s)
    (accepted : ∀ value, checked = .ok value → ∃ made result after,
      Makes (next value) (nextNoted value) s made result after ∧ property made result after) :
    ∃ made result after, Makes (Session.check checked >>= next)
      (Session.check checked >>= nextNoted) s made result after ∧ property made result after := by
  cases answered : checked with
  | error e => exact ⟨[], .error e, s, (check rfl s).bind_error, refused e answered⟩
  | ok value =>
      obtain ⟨made, result, after, makes, holds⟩ := accepted value answered
      exact ⟨made, result, after, (check rfl s).bind makes, holds⟩

/-- An action that may begin with a refusal of its own. -/
theorem exists_refuse {refused : Bool} {e : DbError} {next : SessionAction σ β}
    {nextNoted : SessionAction (Recorded σ) β}
    {property : List Exchange → Except DbError β → Session σ → Prop}
    (stops : property [] (.error e) s)
    (goesOn : ∃ made result after, Makes next nextNoted s made result after ∧
      property made result after) :
    ∃ made result after,
      Makes
        (do
          if refused then throw e
          next)
        (do
          if refused then throw e
          nextNoted)
        s made result after ∧ property made result after := by
  cases refused with
  | false => exact goesOn
  | true => exact ⟨[], .error e, s, (SqlBind.Makes.throw e s).bind_error, stops⟩

/-- An action that begins by reading the settings. -/
theorem configured (next : (τ : Type) → SessionConfig → SessionAction τ α)
    (makes : Makes (next σ s.config) (next (Recorded σ) s.config) s made result after) :
    Makes (do next σ (← get).config) (do next (Recorded σ) (← get).config) s made result after where
  plain log := makes.plain log
  noted earlier log := makes.noted earlier log

end Makes

/-- Sending a batch inside the open transaction, once it compiles and binds. -/
theorem writeManyAtomic_makes (sound : s.Sound) {sql : String} {statement : Statement}
    {rows : List Row} (compiles : SqlBind.compile sql s.style = .ok statement)
    (binds : statement.bindBatch (.positional rows) = .ok rows) (nonempty : rows ≠ []) :
    ∃ made result after,
      Makes (writeManyAtomic sql (.positional rows)) (writeManyAtomic sql (.positional rows)) s made
        result after ∧
      s.Continues after ∧
      Execution.Sent s.driver statement.sql s.config.executor.chunkSize 0 0 rows s.channel.conn made
        result after.channel.conn := by
  have filled : (Batch.positional rows).isEmpty = false := by
    simpa [Batch.isEmpty, Batch.size] using nonempty
  have valid : s.config.executor.validate = .ok () := if_neg (Nat.ne_of_gt sound.positive)
  obtain ⟨made, result, conn, makes, sent⟩ := Execution.sendChunks_makes s.driver statement.sql
    sound.positive 0 0 rows s.channel.conn
  have runs : Channel.Makes
      (Execution.runAtomic s.driver s.config.executor statement.sql rows)
      (Execution.runAtomic s.driver.recorded s.config.executor statement.sql rows) s.channel.conn
      made result conn := by
    unfold Execution.runAtomic
    simp only [valid, sound.positive, dite_true]
    exact makes
  let compiled : Session σ := { s with compiler := (s.compiler.compile sql).2 }
  refine ⟨made, result, compiled.onConn conn, ?_,
    (continues_compile s sql).trans (continues_onConn compiled conn), sent⟩
  unfold writeManyAtomic
  simp only [filled, Bool.false_eq_true, if_false]
  refine (Makes.compile sound.faithful compiles).bind ((Makes.check binds compiled).bind ?_)
  exact Makes.configured
    (fun _ config => onChannel fun d => Execution.runAtomic d config.executor statement.sql rows)
    (Makes.onChannel runs)

end Session

end SqlBind
