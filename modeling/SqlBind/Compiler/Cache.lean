import SqlBind.Statement

/-!
Owns: a bounded store of compiled statements by SQL text. A logical clock stamps every use of an
entry, and when an insertion finds the store full, the entry with the oldest stamp goes. The clock
is a word of 64 bits and starts again at zero after its largest value.

Looking up, inserting and clearing are separate operations, so that several callers can take turns
in any order.
-/

set_option autoImplicit false

namespace SqlBind

structure CacheEntry where
  sql : String
  statement : Statement
  /-- Which storing put the statement there. -/
  serial : Nat
  /-- The clock at its last use. -/
  used : UInt64
deriving DecidableEq, Repr, Inhabited

/-- Compiled statements by SQL text, at most `capacity` of them. -/
structure CompileCache where
  capacity : Nat
  clock : UInt64
  /-- How many statements were stored so far. -/
  storings : Nat
  entries : List CacheEntry
deriving DecidableEq, Repr, Inhabited

namespace CompileCache

def empty (capacity : Nat) : CompileCache := ⟨capacity, 0, 0, []⟩

def size (cache : CompileCache) : Nat := cache.entries.length

/-- The entry for a text, without using it. -/
def find? (cache : CompileCache) (sql : String) : Option CacheEntry :=
  cache.entries.find? fun entry => entry.sql = sql

/-- The entries with the one for `sql` stamped. -/
def touch (sql : String) (now : UInt64) (entries : List CacheEntry) : List CacheEntry :=
  entries.map fun entry => if entry.sql = sql then { entry with used := now } else entry

/-- The oldest stamp of a last use. -/
def oldest (entries : List CacheEntry) : Option UInt64 := (entries.map CacheEntry.used).min?

/-- The entries without the first of those with the oldest stamp. -/
def evictOldest (entries : List CacheEntry) : List CacheEntry :=
  match oldest entries with
  | none => entries
  | some stamp => entries.eraseP fun entry => entry.used = stamp

/-- Looks a text up. The clock advances in any case; an entry that is found counts as used. -/
def get (cache : CompileCache) (sql : String) : Option Statement × CompileCache :=
  let now := cache.clock + 1
  match cache.find? sql with
  | none => (none, { cache with clock := now })
  | some entry =>
    (some entry.statement, { cache with clock := now, entries := touch sql now cache.entries })

/-- Stores a statement for a text, unless there is one already. The answer is the statement that
the store now holds for the text. -/
def insert (cache : CompileCache) (sql : String) (statement : Statement) :
    Statement × CompileCache :=
  let now := cache.clock + 1
  match cache.find? sql with
  | some entry =>
    (entry.statement, { cache with clock := now, entries := touch sql now cache.entries })
  | none =>
    let kept := if cache.capacity ≤ cache.size then evictOldest cache.entries else cache.entries
    (statement, { cache with
      clock := now
      storings := cache.storings + 1
      entries := ⟨sql, statement, cache.storings, now⟩ :: kept })

/-- Forgets every statement. The clock goes on. -/
def clear (cache : CompileCache) : CompileCache := { cache with entries := [] }

end CompileCache

end SqlBind
