import SqlBind.Compiler.Cache

/-!
Owns: a compiler for one driver convention, with or without a store of compiled statements.
-/

set_option autoImplicit false

namespace SqlBind

/-- A compiler for one driver convention. -/
structure Compiler where
  style : ParamStyle
  cache : Option CompileCache
deriving DecidableEq, Repr, Inhabited

namespace Compiler

def new (style : ParamStyle) : Compiler := ⟨style, none⟩

/-- A compiler that stores up to `capacity` statements; with capacity 0 it stores nothing. -/
def withCache (style : ParamStyle) (capacity : Nat) : Compiler :=
  ⟨style, if capacity = 0 then none else some (CompileCache.empty capacity)⟩

/-- The statement for `sql`, compiled unless it is stored. Only statements are stored, so a text
that does not compile is tried again each time. -/
def compile (c : Compiler) (sql : String) : Except DbError Statement × Compiler :=
  match c.cache with
  | none => (SqlBind.compile sql c.style, c)
  | some cache =>
    match cache.get sql with
    | (some statement, cache) => (.ok statement, { c with cache := some cache })
    | (none, cache) =>
      match SqlBind.compile sql c.style with
      | .error e => (.error e, { c with cache := some cache })
      | .ok statement =>
        let (stored, cache) := cache.insert sql statement
        (.ok stored, { c with cache := some cache })

def cached (c : Compiler) : Nat :=
  match c.cache with
  | none => 0
  | some cache => cache.size

/-- Which storing put the statement there that is stored for a text. Two compilations gave the same
stored statement exactly if this did not change between them. -/
def storedAt? (c : Compiler) (sql : String) : Option Nat :=
  (c.cache.bind fun cache => cache.find? sql).map CacheEntry.serial

def clearCache (c : Compiler) : Compiler := { c with cache := c.cache.map CompileCache.clear }

end Compiler

end SqlBind
