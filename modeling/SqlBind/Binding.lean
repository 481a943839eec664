import SqlBind.Record
import SqlBind.Statement

/-!
Owns: bringing the values of a record into the order in which a driver expects them.

A keyed record gives each bind key its value. A positional row is aligned either with the
placeholders or, if it is shorter than that, with the different keys; which of the two matters
only when a key fills several slots, and then every slot of the key takes the same value.
-/

set_option autoImplicit false

namespace SqlBind

namespace Statement

/-- The value of each bind key. The first key that the record lacks is the error, with the index
of the record in its batch. -/
def bindKeyed (s : Statement) (record : KeyedRecord) (index : Option Nat) : Except DbError Row :=
  s.bindKeys.mapM fun key =>
    match record.get? key with
    | some value => .ok value
    | none => .error (.missingParameter key index)

/-- The values of a row at the given places; places beyond its end are left out. -/
def pick (row : Row) (places : List Nat) : Row := places.filterMap fun place => row[place]?

/-- The key of the first slot whose rank is not below `count`. -/
def firstBeyond (count : Nat) (keys : List String) (ranks : List Nat) : String :=
  match (keys.zip ranks).find? fun slot => count ≤ slot.2 with
  | some slot => slot.1
  | none => ""

/-- A row in driver order. A row too short for the different keys lacks the first key that it has
no value for. -/
def bindPositional (s : Statement) (row : Row) (index : Option Nat) : Except DbError Row :=
  let layout := s.layout
  if !layout.hasDuplicates then .ok row
  else if layout.first.length ≤ row.length then .ok (pick row layout.first)
  else if layout.distinctCount ≤ row.length then .ok (pick row layout.distinct)
  else .error (.missingParameter (firstBeyond row.length s.bindKeys layout.distinct) index)

def bind (s : Statement) : Record → Except DbError Row
  | .keyed fields => s.bindKeyed fields none
  | .positional row => s.bindPositional row none

/-- Binds each element of a list, telling each its index. -/
def bindEach {α : Type} (one : α → Option Nat → Except DbError Row) (index : Nat) :
    List α → Except DbError (List Row)
  | [] => .ok []
  | record :: rest => do
    let row ← one record (some index)
    let rows ← bindEach one (index + 1) rest
    return row :: rows

def bindBatch (s : Statement) : Batch → Except DbError (List Row)
  | .keyed records => bindEach s.bindKeyed 0 records
  | .positional rows => bindEach s.bindPositional 0 rows

end Statement

end SqlBind
