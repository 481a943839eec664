import Mathlib.Data.List.Nodup
import SqlBind.Proofs.Compiler.Faithful

/-!
Owns: a store of compiled statements that several callers share. They take turns in any order, and
one that looked a text up in vain may find another's statement there when it comes to store its own.

Main statements: whatever turns were taken, the store is in order (`tended_afterUses`): it holds at
most its capacity of entries, one for a text, and each is what compiling its text gives. Whoever
asks such a store is told what compiling gives (`Tended.serves`).
-/

set_option autoImplicit false

namespace SqlBind

/-- One turn at a store. -/
inductive CacheUse where
  | get (sql : String)
  | insert (sql : String) (statement : Statement)
  | clear
deriving DecidableEq, Repr, Inhabited

namespace CacheUse

/-- What the turn stores is what its caller compiled. -/
def Honest (style : ParamStyle) : CacheUse → Prop
  | get _ => True
  | insert sql statement => compile sql style = .ok statement
  | clear => True

def apply (cache : CompileCache) : CacheUse → CompileCache
  | get sql => (cache.get sql).2
  | insert sql statement => (cache.insert sql statement).2
  | clear => cache.clear

end CacheUse

namespace CompileCache

/-- The store after turns of any callers, oldest first. -/
def afterUses (cache : CompileCache) (uses : List CacheUse) : CompileCache :=
  uses.foldl CacheUse.apply cache

/-! ### Entries -/

@[simp] theorem map_sql_touch (sql : String) (now : UInt64) (entries : List CacheEntry) :
    (touch sql now entries).map CacheEntry.sql = entries.map CacheEntry.sql := by
  induction entries with
  | nil => rfl
  | cons entry rest inductionHypothesis =>
      simp only [touch, List.map_cons] at inductionHypothesis ⊢
      rw [inductionHypothesis]
      split <;> rfl

@[simp] theorem length_touch (sql : String) (now : UInt64) (entries : List CacheEntry) :
    (touch sql now entries).length = entries.length :=
  List.length_map _

theorem evictOldest_sublist (entries : List CacheEntry) :
    (evictOldest entries).Sublist entries := by
  unfold evictOldest
  split
  · exact List.Sublist.refl entries
  · exact List.eraseP_sublist

/-- A store that is not empty loses an entry. -/
theorem length_evictOldest {entries : List CacheEntry} (nonempty : entries ≠ []) :
    (evictOldest entries).length + 1 = entries.length := by
  unfold evictOldest oldest
  cases least : (entries.map CacheEntry.used).min? with
  | none => simp_all
  | some stamp =>
      -- Some entry has the oldest stamp.
      obtain ⟨entry, member, stamped⟩ := List.mem_map.mp (List.min?_mem least)
      have erased := List.length_eraseP_of_mem member (p := fun entry => entry.used = stamp)
        (by simpa using stamped)
      have positive := List.length_pos_iff.mpr nonempty
      simp only
      omega

/-- A look-up finds nothing exactly if no entry has the text. -/
theorem find?_eq_none_iff {cache : CompileCache} {sql : String} :
    cache.find? sql = none ↔ sql ∉ cache.entries.map CacheEntry.sql := by
  simp [find?]

/-! ### Stores in order -/

/-- A store for a convention: there is room in it, no text has two entries, and each entry is what
compiling its text gives. -/
structure Tended (style : ParamStyle) (capacity : Nat) (cache : CompileCache) : Prop where
  faithful : Faithful style cache.entries
  distinct : (cache.entries.map CacheEntry.sql).Nodup
  room : cache.capacity = capacity
  bounded : cache.size ≤ capacity

variable {style : ParamStyle} {capacity : Nat} {cache : CompileCache}

private theorem tended_empty (style : ParamStyle) (capacity : Nat) :
    Tended style capacity (empty capacity) where
  faithful := faithful_nil
  distinct := List.nodup_nil
  room := rfl
  bounded := Nat.zero_le capacity

namespace Tended

theorem get (tended : Tended style capacity cache) (sql : String) :
    Tended style capacity (cache.get sql).2 := by
  have faithful := (get_faithful tended.faithful sql).2
  unfold CompileCache.get at faithful ⊢
  cases found : cache.find? sql with
  | none => exact ⟨tended.faithful, tended.distinct, tended.room, tended.bounded⟩
  | some entry =>
      rw [found] at faithful
      refine ⟨faithful, ?_, tended.room, ?_⟩
      · simpa using tended.distinct
      · simpa [size] using tended.bounded

/-- Storing what was compiled keeps a store in order, since it evicts first if there is no room. -/
theorem insert (tended : Tended style capacity cache) (positive : 0 < capacity) {sql : String}
    {statement : Statement} (compiled : SqlBind.compile sql style = .ok statement) :
    Tended style capacity (cache.insert sql statement).2 := by
  have faithful := (insert_faithful tended.faithful compiled).2
  unfold CompileCache.insert at faithful ⊢
  cases found : cache.find? sql with
  | some entry =>
      rw [found] at faithful
      refine ⟨faithful, ?_, tended.room, ?_⟩
      · simpa using tended.distinct
      · simpa [size] using tended.bounded
  | none =>
      rw [found] at faithful
      have bounded := tended.bounded
      simp only [size, tended.room] at bounded faithful ⊢
      have absent := find?_eq_none_iff.mp found
      -- The new text is in none of the entries that are kept.
      refine ⟨faithful, ?_, rfl, ?_⟩
      · rw [List.map_cons, List.nodup_cons]
        split
        · have kept := (evictOldest_sublist cache.entries).map CacheEntry.sql
          exact ⟨fun member => absent (kept.subset member), tended.distinct.sublist kept⟩
        · exact ⟨absent, tended.distinct⟩
      · rw [size, List.length_cons]
        split
        · have nonempty : cache.entries ≠ [] := by
            apply List.length_pos_iff.mp
            omega
          have evicted := length_evictOldest nonempty
          omega
        · omega

theorem clear (tended : Tended style capacity cache) : Tended style capacity cache.clear where
  faithful := faithful_nil
  distinct := List.nodup_nil
  room := tended.room
  bounded := Nat.zero_le capacity

/-- One turn leaves a store in order, whoever takes it. -/
theorem apply (tended : Tended style capacity cache) (positive : 0 < capacity) {use : CacheUse}
    (honest : use.Honest style) : Tended style capacity (use.apply cache) := by
  cases use with
  | get sql => exact tended.get sql
  | insert sql statement => exact tended.insert positive honest
  | clear => exact tended.clear

/-- A store stays in order whoever takes a turn at it, if all store what they compiled. -/
theorem afterUses (tended : Tended style capacity cache) (positive : 0 < capacity)
    {uses : List CacheUse} (honest : ∀ use ∈ uses, use.Honest style) :
    Tended style capacity (cache.afterUses uses) := by
  induction uses generalizing cache with
  | nil => exact tended
  | cons use rest inductionHypothesis =>
      rw [List.forall_mem_cons] at honest
      exact inductionHypothesis (tended.apply positive honest.1) honest.2

/-- What is stored for a text is found. -/
theorem find?_sql (tended : Tended style capacity cache) {entry : CacheEntry}
    (member : entry ∈ cache.entries) : cache.find? entry.sql = some entry := by
  cases found : cache.find? entry.sql with
  | none => exact absurd (List.mem_map_of_mem member) (find?_eq_none_iff.mp found)
  | some other =>
      have named : other.sql = entry.sql := by simpa using List.find?_some found
      rw [List.inj_on_of_nodup_map tended.distinct (List.mem_of_find?_eq_some found) member named]

end Tended

/-- The store of a compiler after any turns of its callers. -/
theorem tended_afterUses {style : ParamStyle} {capacity : Nat}
    (held : cache ∈ (Compiler.withCache style capacity).cache) {uses : List CacheUse}
    (honest : ∀ use ∈ uses, use.Honest style) : Tended style capacity (cache.afterUses uses) := by
  simp only [Compiler.withCache, Option.mem_def] at held
  split at held
  · cases held
  · rename_i positive
    cases held
    exact (tended_empty style capacity).afterUses (Nat.pos_of_ne_zero positive) honest

/-! ### Answers -/

/-- Whoever asks the store is told what compiling gives. -/
structure Serves (style : ParamStyle) (capacity : Nat) (cache : CompileCache) : Prop where
  get : ∀ sql statement, (cache.get sql).1 = some statement →
    SqlBind.compile sql style = .ok statement
  insert : ∀ sql statement, SqlBind.compile sql style = .ok statement →
    (cache.insert sql statement).1 = statement
  /-- Whoever stored a text first is answered to all who come later, whatever they bring. -/
  first : ∀ entry ∈ cache.entries, ∀ statement,
    (cache.insert entry.sql statement).1 = entry.statement
  entry : ∀ entry ∈ cache.entries, SqlBind.compile entry.sql style = .ok entry.statement
  bounded : cache.size ≤ capacity
  failing : ∀ sql e, SqlBind.compile sql style = .error e → ∀ entry ∈ cache.entries, entry.sql ≠ sql
  compile : ∀ sql, (Compiler.compile ⟨style, some cache⟩ sql).1 = SqlBind.compile sql style

/-- A store in order serves whoever asks. -/
theorem Tended.serves {style : ParamStyle} {capacity : Nat} {cache : CompileCache}
    (tended : Tended style capacity cache) : Serves style capacity cache where
  get sql := (get_faithful tended.faithful sql).1
  insert sql statement compiled := by
    have answered := (insert_faithful tended.faithful compiled).1
    rw [compiled] at answered
    exact (Except.ok.inj answered).symm
  first entry member statement := by
    rw [CompileCache.insert, tended.find?_sql member]
  entry := tended.faithful
  bounded := tended.bounded
  failing sql e fails := by
    rintro entry member rfl
    rw [tended.faithful entry member] at fails
    cases fails
  compile sql := by
    apply Compiler.compile_fst
    rintro _ ⟨⟩
    exact tended.faithful

end CompileCache

end SqlBind
