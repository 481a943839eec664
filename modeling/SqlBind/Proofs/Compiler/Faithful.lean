import SqlBind.Compiler

/-!
Owns: stores that hold for every text the statement that compiling it gives. A compiler starts with
such a store and keeps it so, whatever it compiles and whatever it evicts.

Main statement: with a faithful store a compiler answers as if it had none (`compile_fst`).
-/

set_option autoImplicit false

namespace SqlBind

namespace CompileCache

/-- Every entry holds what its own text compiles to. -/
def Faithful (style : ParamStyle) (entries : List CacheEntry) : Prop :=
  ∀ entry ∈ entries, SqlBind.compile entry.sql style = .ok entry.statement

variable {style : ParamStyle}

theorem faithful_nil : Faithful style [] := by
  intro entry member
  cases member

private theorem faithful_touch {entries : List CacheEntry} (faithful : Faithful style entries)
    (sql : String) (now : UInt64) : Faithful style (touch sql now entries) := by
  intro entry member
  obtain ⟨other, held, rfl⟩ := List.mem_map.mp member
  have holds := faithful other held
  split <;> exact holds

private theorem faithful_evictOldest {entries : List CacheEntry}
    (faithful : Faithful style entries) : Faithful style (evictOldest entries) := by
  intro entry member
  unfold evictOldest at member
  split at member
  · exact faithful entry member
  · exact faithful entry (List.mem_of_mem_eraseP member)

private theorem find?_faithful {cache : CompileCache} (faithful : Faithful style cache.entries)
    {sql : String} {entry : CacheEntry} (found : cache.find? sql = some entry) :
    SqlBind.compile sql style = .ok entry.statement := by
  have named : entry.sql = sql := by simpa using List.find?_some found
  rw [← named]
  exact faithful entry (List.mem_of_find?_eq_some found)

/-- A hit is what compiling would give, and looking up keeps the store faithful. -/
theorem get_faithful {cache : CompileCache} (faithful : Faithful style cache.entries)
    (sql : String) :
    (∀ statement, (cache.get sql).1 = some statement →
        SqlBind.compile sql style = .ok statement) ∧
      Faithful style (cache.get sql).2.entries := by
  unfold get
  cases found : cache.find? sql with
  | none => exact ⟨nofun, faithful⟩
  | some entry =>
      refine ⟨?_, faithful_touch faithful sql _⟩
      intro statement answered
      cases answered
      exact find?_faithful faithful found

/-- Storing what was compiled hands it back and keeps the store faithful. -/
theorem insert_faithful {cache : CompileCache} (faithful : Faithful style cache.entries)
    {sql : String} {statement : Statement} (compiled : SqlBind.compile sql style = .ok statement) :
    SqlBind.compile sql style = .ok (cache.insert sql statement).1 ∧
      Faithful style (cache.insert sql statement).2.entries := by
  unfold insert
  cases found : cache.find? sql with
  | some entry => exact ⟨find?_faithful faithful found, faithful_touch faithful sql _⟩
  | none =>
      refine ⟨compiled, ?_⟩
      intro entry member
      rcases List.mem_cons.mp member with rfl | held
      · exact compiled
      · split at held
        · exact faithful_evictOldest faithful entry held
        · exact faithful entry held

end CompileCache

namespace Compiler

/-- The store, if there is one, holds what its texts compile to. -/
def Faithful (c : Compiler) : Prop :=
  ∀ cache ∈ c.cache, CompileCache.Faithful c.style cache.entries

theorem faithful_withCache (style : ParamStyle) (capacity : Nat) :
    (Compiler.withCache style capacity).Faithful := by
  intro cache member
  simp only [withCache, Option.mem_def] at member
  split at member
  · cases member
  · cases member
    exact CompileCache.faithful_nil

variable {c : Compiler}

theorem compile_style (c : Compiler) (sql : String) : (c.compile sql).2.style = c.style := by
  unfold compile
  split
  · rfl
  · split
    · rfl
    · split <;> rfl

/-- With a faithful store a compiler answers as if it had none. -/
theorem compile_fst (faithful : c.Faithful) (sql : String) :
    (c.compile sql).1 = SqlBind.compile sql c.style := by
  unfold compile
  split
  · rfl
  · rename_i cache held
    have stored := faithful cache held
    have looked := CompileCache.get_faithful stored sql
    split
    · rename_i statement after found
      rw [found] at looked
      exact (looked.1 statement rfl).symm
    · rename_i after missed
      rw [missed] at looked
      split
      · rename_i e fails
        exact fails.symm
      · rename_i statement compiled
        exact (CompileCache.insert_faithful looked.2 compiled).1.symm

theorem faithful_compile (faithful : c.Faithful) (sql : String) :
    (c.compile sql).2.Faithful := by
  unfold compile
  split
  · exact faithful
  · rename_i cache held
    have stored := faithful cache held
    have looked := CompileCache.get_faithful stored sql
    split
    · rename_i statement after found
      rw [found] at looked
      rintro _ ⟨⟩
      exact looked.2
    · rename_i after missed
      rw [missed] at looked
      split
      · rintro _ ⟨⟩
        exact looked.2
      · rename_i statement compiled
        rintro _ ⟨⟩
        exact (CompileCache.insert_faithful looked.2 compiled).2

end Compiler

end SqlBind
