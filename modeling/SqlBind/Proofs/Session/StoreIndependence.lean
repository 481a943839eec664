import SqlBind.Proofs.Compiler.Sharing
import SqlBind.Proofs.Session.Books

/-!
Owns: sessions that differ in nothing but their stores of compiled statements. An action that does
not look at the store ends alike on both and leaves both alike; there is one rule for each way of
combining actions.

Main statement: a store serves whoever shares it, and its size can be told from nothing that a
session does (`compile_cache_is_unobservable`).
-/

set_option autoImplicit false

namespace SqlBind

open Execution (ending ending_bind_ok ending_bind_error)

variable {σ α β : Type}

/-- The settings with another size of the store. -/
def SessionConfig.caching (config : SessionConfig) (capacity : Nat) : SessionConfig :=
  { config with compileCache := capacity }

/-! ### Alike sessions -/

/-- Sessions that differ in nothing but what they store and how much they may. -/
structure Session.Alike (s other : Session σ) : Prop where
  driver : other.driver = s.driver
  config : ∃ capacity, other.config = s.config.caching capacity
  style : other.style = s.style
  channel : other.channel = s.channel
  faithful : s.compiler.Faithful
  faithfulOther : other.compiler.Faithful

/-- The action ends alike on alike sessions and leaves them alike. -/
def Blind (action : SessionAction σ α) : Prop :=
  ∀ s other : Session σ, s.Alike other →
    (ending action other).1 = (ending action s).1 ∧
      (ending action s).2.Alike (ending action other).2

theorem Session.Alike.noting {s other : Session σ} (alike : s.Alike other)
    (earlier : Array Exchange) : (s.noting earlier).Alike (other.noting earlier) where
  driver := by simp only [Session.noting, alike.driver]
  config := alike.config
  style := alike.style
  channel := by simp only [Session.noting, alike.channel]
  faithful := alike.faithful
  faithfulOther := alike.faithfulOther

/-- Opening a session fails or succeeds whatever the size of the store. -/
theorem Session.alike_withConfig (d : Driver σ) (conn : σ) (config : SessionConfig)
    (capacity : Nat) {s : Session σ} (opened : Session.withConfig d conn config = .ok s) :
    ∃ other, Session.withConfig d conn (config.caching capacity) = .ok other ∧ s.Alike other := by
  obtain ⟨positive, rfl⟩ := Session.withConfig_ok opened
  have valid : (config.caching capacity).validate = .ok () := if_neg (Nat.ne_of_gt positive)
  refine ⟨_, by rw [Session.withConfig, valid]; rfl, ?_⟩
  exact ⟨rfl, ⟨capacity, rfl⟩, rfl, rfl, Compiler.faithful_withCache _ _,
    Compiler.faithful_withCache _ _⟩

private theorem Session.withConfig_error {d : Driver σ} {conn : σ} {config : SessionConfig}
    {capacity : Nat} (e : DbError) (refused : Session.withConfig d conn config = .error e) :
    Session.withConfig d conn (config.caching capacity) = .error e := by
  have alike : (config.caching capacity).validate = config.validate := rfl
  unfold Session.withConfig at refused ⊢
  rw [alike]
  cases checked : config.validate with
  | error other =>
      rw [checked] at refused
      exact refused
  | ok valid =>
      rw [checked] at refused
      cases refused

namespace Blind

/-! ### Rules -/

theorem pure (value : α) : Blind (Pure.pure value : SessionAction σ α) :=
  fun _ _ alike => ⟨rfl, alike⟩

/-- Blind actions in a row are blind. -/
theorem bind {action : SessionAction σ α} {next : α → SessionAction σ β} (first : Blind action)
    (rest : ∀ value, Blind (next value)) : Blind (action >>= next) := by
  intro s other alike
  obtain ⟨same, left⟩ := first s other alike
  cases ended : ending action s with
  | mk result middle =>
      cases endedOther : ending action other with
      | mk resultOther middleOther =>
          rw [ended, endedOther] at same left
          obtain rfl : resultOther = result := same
          cases resultOther with
          | error e =>
              rw [ending_bind_error ended, ending_bind_error endedOther]
              exact ⟨rfl, left⟩
          | ok value =>
              rw [ending_bind_ok ended, ending_bind_ok endedOther]
              exact rest value middle middleOther left

theorem andReturn {action : SessionAction σ α} (first : Blind action) (outcome : α → β) :
    Blind (do return outcome (← action)) :=
  first.bind fun value => pure (outcome value)

theorem check (checked : Except DbError α) : Blind (Session.check checked : SessionAction σ α) := by
  intro s other alike
  cases checked <;> exact ⟨rfl, alike⟩

/-- An action may begin with a refusal of its own. -/
theorem refuse {refused : Bool} {e : DbError} {next : SessionAction σ α} (rest : Blind next) :
    Blind (do
      if refused then throw e
      next) := by
  cases refused with
  | false => exact rest
  | true =>
      intro s other alike
      exact ⟨rfl, alike⟩

/-- The compiled form does not depend on the store that may hold it. -/
theorem compile (sql : String) : Blind (Session.compile sql : SessionAction σ Statement) := by
  intro s other alike
  rw [Session.ending_compile s alike.faithful, Session.ending_compile other alike.faithfulOther,
    alike.style]
  refine ⟨rfl, alike.driver, alike.config, ?_, alike.channel, ?_, ?_⟩
  · show (other.compiler.compile sql).2.style = (s.compiler.compile sql).2.style
    rw [Compiler.compile_style, Compiler.compile_style]
    exact alike.style
  · exact Compiler.faithful_compile alike.faithful sql
  · exact Compiler.faithful_compile alike.faithfulOther sql

/-- What works on the connection only cannot see the store. -/
theorem onChannel (action : Driver σ → Action σ α) : Blind (Session.onChannel action) := by
  intro s other alike
  cases ended : ending (action s.driver) s.channel with
  | mk result channel =>
      have endedOther : ending (action other.driver) other.channel = (result, channel) := by
        rw [alike.driver, alike.channel]
        exact ended
      rw [Session.ending_onChannel ended, Session.ending_onChannel endedOther]
      exact ⟨rfl, alike.driver, alike.config, alike.style, rfl, alike.faithful, alike.faithfulOther⟩

/-- An action may read any setting but the size of the store. -/
theorem configured (next : SessionConfig → SessionAction σ α)
    (unread : ∀ config capacity, next (config.caching capacity) = next config)
    (rest : ∀ config, Blind (next config)) : Blind (do next (← get).config) := by
  intro s other alike
  obtain ⟨capacity, same⟩ := alike.config
  have unseen : next other.config = next s.config := by
    rw [same]
    exact unread s.config capacity
  show (ending (next other.config) other).1 = (ending (next s.config) s).1 ∧
    (ending (next s.config) s).2.Alike (ending (next other.config) other).2
  rw [unseen]
  exact rest s.config s other alike

/-! ### Writes -/

theorem commit : Blind (Session.commit : SessionAction σ Unit) :=
  onChannel fun d => Channel.perform d.commit

theorem rollback : Blind (Session.rollback : SessionAction σ Unit) :=
  onChannel fun d => Channel.perform d.rollback

theorem autocommit : Blind (Session.autocommit : SessionAction σ Unit) := by
  apply configured (fun config => if config.autocommit then Session.commit else Pure.pure ())
  · intro config capacity
    rfl
  · intro config
    split
    · exact commit
    · exact pure ()

theorem executeOnce (sql : String) (row : Row) :
    Blind (Session.executeOnce sql row : SessionAction σ Nat) := by
  apply bind (onChannel _)
  intro count
  exact bind autocommit fun _ => pure count

theorem write (sql : String) (record : Record) :
    Blind (Session.write sql record : SessionAction σ Nat) := by
  apply bind (compile sql)
  intro statement
  apply bind (check _)
  intro row
  exact executeOnce statement.sql row

/-- Compiling a statement, binding a batch to it and sending the rows. -/
theorem sendBatch (sql : String) (batch : Batch)
    (send : Driver σ → ExecutorConfig → String → List Row → Action σ Nat) :
    Blind (do
      let statement ← Session.compile sql
      let rows ← Session.check (statement.bindBatch batch)
      let config := (← get).config.executor
      Session.onChannel fun d => send d config statement.sql rows : SessionAction σ Nat) := by
  apply bind (compile sql)
  intro statement
  apply bind (check _)
  intro rows
  apply configured
    (fun config => Session.onChannel fun d => send d config.executor statement.sql rows)
  · intro config capacity
    rfl
  · intro config
    exact onChannel _

theorem writeMany (sql : String) (batch : Batch) :
    Blind (Session.writeMany sql batch : SessionAction σ Nat) := by
  unfold Session.writeMany
  by_cases empty : batch.isEmpty = true
  · simp only [empty, if_true]
    exact bind (onChannel _) fun _ => pure 0
  · simp only [empty]
    exact sendBatch sql batch Execution.run

theorem writeManyAtomic (sql : String) (batch : Batch) :
    Blind (Session.writeManyAtomic sql batch : SessionAction σ Nat) := by
  unfold Session.writeManyAtomic
  by_cases empty : batch.isEmpty = true
  · simp only [empty, if_true]
    exact pure 0
  · simp only [empty]
    exact sendBatch sql batch Execution.runAtomic

theorem execute (sql : String) (args : Args) :
    Blind (Session.execute sql args : SessionAction σ Nat) := by
  cases args with
  | none => exact executeOnce sql []
  | many batch => exact writeMany sql batch
  | one record =>
      by_cases empty : record.isEmpty = true
      · simp only [Session.execute, empty, if_true]
        exact executeOnce sql []
      · simp only [Session.execute, empty]
        exact write sql record

/-! ### Tables -/

theorem insertOne (t : Table) (record : KeyedRecord) :
    Blind (t.insertOne record : SessionAction σ Nat) := by
  apply refuse
  apply bind (check _)
  intro names
  exact write _ _

theorem insertMany (t : Table) (records : List KeyedRecord) :
    Blind (t.insertMany records : SessionAction σ Nat) := by
  cases records with
  | nil => exact pure 0
  | cons first rest =>
      apply refuse
      apply bind (check _)
      intro names
      apply bind (check _)
      intro rows
      exact writeMany _ _

theorem update (t : Table) (condition changes : KeyedRecord) :
    Blind (t.update condition changes : SessionAction σ Nat) := by
  apply refuse
  apply bind (check _)
  intro changed
  apply bind (check _)
  intro conditioned
  exact write _ _

theorem delete (t : Table) (condition : KeyedRecord) :
    Blind (t.delete condition : SessionAction σ Nat) := by
  apply refuse
  apply bind (check _)
  intro conditioned
  exact write _ _

theorem commitMerge : Blind (Table.commitMerge : SessionAction σ Unit) := by
  apply configured (fun config =>
    if config.executor.commitChunks then Session.onChannel Table.commitOrUndo else Pure.pure ())
  · intro config capacity
    rfl
  · intro config
    split
    · exact onChannel Table.commitOrUndo
    · exact pure ()

/-- A merge compiles twice, and neither time shows in what it does. -/
theorem merge (t : Table) (records : List KeyedRecord) (unique : List String) :
    Blind (t.merge records unique : SessionAction σ MergeOutcome) := by
  unfold Table.merge
  apply refuse
  cases records with
  | nil => exact pure _
  | cons first rest =>
      apply refuse
      apply bind (check _)
      intro _
      apply bind (check _)
      intro conditioned
      apply bind (check _)
      intro names
      apply bind (check _)
      intro deleteRows
      apply bind (check _)
      intro insertRows
      apply bind (writeManyAtomic _ _)
      intro deleted
      apply bind (writeManyAtomic _ _)
      intro inserted
      apply bind commitMerge
      intro _
      exact bind (onChannel _) fun _ => pure _

/-- No operation shows what is in the store. -/
theorem operation (o : Operation) : Blind (o.run : SessionAction σ Nat) := by
  cases o with
  | execute sql args => exact execute sql args
  | write sql record => exact write sql record
  | writeMany sql batch => exact writeMany sql batch
  | insertOne table record => exact bind (check _) fun t => insertOne t record
  | insertMany table records => exact bind (check _) fun t => insertMany t records
  | update table condition changes => exact bind (check _) fun t => update t condition changes
  | delete table condition => exact bind (check _) fun t => delete t condition
  | deleteAll table => exact bind (check _) fun t => execute _ _
  | merge table records unique =>
      exact bind (check _) fun t => bind (merge t records unique) fun _ => pure _
  | commit => exact bind commit fun _ => pure 0
  | rollback => exact bind rollback fun _ => pure 0

end Blind

/-! ### Orders -/

/-- What a session can be asked for: a compilation, a merge with both its counts, or any operation
with the rows that it affects. -/
inductive Order where
  | compile (sql : String)
  | merge (table : String) (records : List KeyedRecord) (unique : List String)
  | operation (o : Operation)

inductive Outcome where
  | compiled (statement : Statement)
  | merged (outcome : MergeOutcome)
  | affected (rows : Nat)
deriving DecidableEq, Repr

namespace Order

def run : Order → SessionAction σ Outcome
  | compile sql => do return .compiled (← Session.compile sql)
  | merge table records unique => do
    let t ← Session.check (Table.named table)
    return .merged (← t.merge records unique)
  | operation o => do return .affected (← o.run)

/-- Works off the orders in turn, whatever becomes of each. -/
def perform : List Order → Session σ → List (Except DbError Outcome) × Session σ
  | [], s => ([], s)
  | order :: rest, s =>
    let (result, s) := ending order.run s
    let (results, s) := perform rest s
    (result :: results, s)

/-- The calls that reach the driver for the orders, oldest first. -/
def calls (orders : List Order) (s : Session σ) : List Exchange :=
  (perform orders (s.noting #[])).2.channel.conn.exchanges.toList

private theorem blind_run (order : Order) : Blind (order.run : SessionAction σ Outcome) := by
  cases order with
  | compile sql => exact (Blind.compile sql).andReturn Outcome.compiled
  | operation o => exact (Blind.operation o).andReturn Outcome.affected
  | merge table records unique =>
      exact .bind (.check _) fun t => (Blind.merge t records unique).andReturn Outcome.merged

private theorem blind_perform (orders : List Order) {s other : Session σ} (alike : s.Alike other) :
    (perform orders other).1 = (perform orders s).1 ∧
      (perform orders s).2.Alike (perform orders other).2 := by
  induction orders generalizing s other with
  | nil => exact ⟨rfl, alike⟩
  | cons order rest inductionHypothesis =>
      -- Whatever came of the first order, the sessions are still alike.
      obtain ⟨same, left⟩ := blind_run order s other alike
      obtain ⟨sameLater, leftLater⟩ := inductionHypothesis left
      exact ⟨congrArg₂ List.cons same sameLater, leftLater⟩

end Order

/-- However many callers share a store and whatever turns they take, it tells them what compiling
gives and keeps to its capacity. So the size of its store makes no difference to a session: it opens
alike, and every sequence of orders has the same outcomes, log, connection and driver calls. -/
theorem compile_cache_is_unobservable :
    (∀ (style : ParamStyle) (capacity : Nat), ∀ cache ∈ (Compiler.withCache style capacity).cache,
      ∀ uses : List CacheUse, (∀ use ∈ uses, use.Honest style) →
        (cache.afterUses uses).Serves style capacity) ∧
      ∀ {σ : Type} (d : Driver σ) (conn : σ) (config : SessionConfig) (capacity : Nat),
        (∀ e, Session.withConfig d conn config = .error e →
          Session.withConfig d conn (config.caching capacity) = .error e) ∧
        ∀ s, Session.withConfig d conn config = .ok s →
          ∃ other, Session.withConfig d conn (config.caching capacity) = .ok other ∧
            ∀ orders, (Order.perform orders other).1 = (Order.perform orders s).1 ∧
              (Order.perform orders other).2.channel = (Order.perform orders s).2.channel ∧
              Order.calls orders other = Order.calls orders s := by
  constructor
  · intro style capacity cache held uses honest
    exact (CompileCache.tended_afterUses held honest).serves
  · intro σ d conn config capacity
    refine ⟨Session.withConfig_error, ?_⟩
    intro s opened
    obtain ⟨other, openedOther, alike⟩ := Session.alike_withConfig d conn config capacity opened
    refine ⟨other, openedOther, ?_⟩
    intro orders
    obtain ⟨outcomes, left⟩ := Order.blind_perform orders alike
    obtain ⟨-, noted⟩ := Order.blind_perform orders (alike.noting #[])
    refine ⟨outcomes, left.channel, ?_⟩
    rw [Order.calls, noted.channel]
    rfl

/-- Two callers look a text up in vain before either stores it; a third takes its place. A session
compiles the same text twice and writes with it, without a store and with one. -/
theorem compile_cache_is_unobservable_shared :
    let sql := "select :a"
    let statement : Statement := ⟨"select ?", ["a"], .qmark⟩
    let uses : List CacheUse :=
      [.get sql, .get sql, .insert sql statement, .insert sql statement, .clear,
        .insert sql statement]
    let d := Scripted.driver .qmark Row.describe
    let s : Session ScriptedState := ⟨d, {}, Compiler.new .qmark, ⟨.start {}, #[]⟩⟩
    let orders : List Order :=
      [.compile sql, .operation (.write sql (.positional [.int 1])), .merge "t" [] ["a"]]
    (∀ use ∈ uses, use.Honest .qmark) ∧
      ((CompileCache.empty 1).afterUses uses).size = 1 ∧
      (((CompileCache.empty 1).afterUses uses).get sql).1 = some statement ∧
      compile sql .qmark = .ok statement ∧
      Session.withConfig d (.start {}) {} = .ok s ∧
      ∃ other, Session.withConfig d (.start {}) (SessionConfig.caching {} 1) = .ok other ∧
        (Order.perform orders other).1.map Except.toOption =
          [some (.compiled statement), some (.affected 1), some (.merged ⟨0, 0⟩)] := by
  intro sql statement uses d s orders
  have compiles : compile "select :a" .qmark = .ok ⟨"select ?", ["a"], .qmark⟩ := rfl
  have honest : ∀ use ∈ uses, use.Honest .qmark := by
    simp [uses, sql, statement, CacheUse.Honest, compiles]
  have opened : Session.withConfig d (.start {}) {} = .ok s := rfl
  have shared := compile_cache_is_unobservable.1 .qmark 1 (CompileCache.empty 1) rfl uses honest
  have held : (((CompileCache.empty 1).afterUses uses).get sql).1 = some statement := by
    decide +kernel
  obtain ⟨other, openedOther, same⟩ :=
    (compile_cache_is_unobservable.2 d (.start {}) {} 1).2 s opened
  refine ⟨honest, ?_, held, shared.get sql statement held, opened, other, openedOther, ?_⟩
  · decide +kernel
  · rw [(same orders).1]
    decide +kernel

end SqlBind
