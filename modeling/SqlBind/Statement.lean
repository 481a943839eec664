import SqlBind.Error
import SqlBind.ParamStyle
import SqlBind.Sql.Template

/-!
Owns: compiled statements, that is SQL in a driver's own placeholder convention together with the
keys that its placeholders were written for, and the layout of the values it binds.
-/

set_option autoImplicit false

namespace SqlBind

/-- The elements of a list at their first appearances. -/
def firstAppearances (keys : List String) : List String :=
  keys.foldl (fun seen key => if seen.contains key then seen else seen ++ [key]) []

structure Statement where
  /-- The text in the driver's convention. -/
  sql : String
  /-- The placeholder names in order of occurrence, with repetitions. -/
  keys : List String
  style : ParamStyle
deriving DecidableEq, Repr, Inhabited

namespace Sql

def placeholderNames (pieces : List Piece) : List (List Char) :=
  pieces.filterMap fun
    | .verbatim _ => none
    | .placeholder name => some name

/-- The text of a template in a driver's convention; `ordinal` counts its placeholders. -/
def render (style : ParamStyle) (ordinal : Nat) : List Piece → List Char
  | [] => []
  | .verbatim text :: rest => text ++ render style ordinal rest
  | .placeholder name :: rest => style.token ordinal name ++ render style (ordinal + 1) rest

end Sql

def compile (sql : String) (style : ParamStyle) : Except DbError Statement :=
  match Sql.pieces sql with
  | .error fault => .error (.malformedPlaceholder fault.position fault.message)
  | .ok pieces =>
    .ok ⟨String.ofList (Sql.render style 1 pieces),
      (Sql.placeholderNames pieces).map String.ofList, style⟩

namespace Statement

/-- The keys in the order in which the driver expects their values. A driver that binds by name
gets each key once, every other driver one value for each placeholder. -/
def bindKeys (s : Statement) : List String :=
  match s.style with
  | .named => firstAppearances s.keys
  | _ => s.keys

/-- The placeholder names as they stand in the compiled text, for the conventions with names. -/
def nativeNames (s : Statement) : List String :=
  match s.style with
  | .numeric => (List.range s.keys.length).map fun i => "p" ++ toString (i + 1)
  | .named => s.bindKeys
  | _ => []

end Statement

/-- How the slots that a driver fills map back onto keys. -/
structure BindLayout where
  /-- For each slot, the slot where its key appears first. -/
  first : List Nat
  /-- For each slot, the rank of its key among the different keys. -/
  distinct : List Nat
  /-- How many different keys there are. -/
  distinctCount : Nat
deriving DecidableEq, Repr, Inhabited

namespace BindLayout

/-- The layout of the slots from `slot` on. `seen` has the keys of the earlier slots, each with
the slot and the rank of its first appearance, and `count` says how many they are. -/
def layOut (slot count : Nat) (seen : List (String × Nat × Nat)) : List String → BindLayout
  | [] => ⟨[], [], count⟩
  | key :: rest =>
    match seen.lookup key with
    | some (first, rank) =>
      let later := layOut (slot + 1) count seen rest
      ⟨first :: later.first, rank :: later.distinct, later.distinctCount⟩
    | none =>
      let later := layOut (slot + 1) (count + 1) ((key, slot, count) :: seen) rest
      ⟨slot :: later.first, count :: later.distinct, later.distinctCount⟩

def ofKeys (keys : List String) : BindLayout := layOut 0 0 [] keys

def hasDuplicates (layout : BindLayout) : Bool := layout.distinctCount < layout.first.length

end BindLayout

namespace Statement

def layout (s : Statement) : BindLayout := BindLayout.ofKeys s.bindKeys

/-- Whether some key fills several of the driver's slots. -/
def hasDuplicateBinds (s : Statement) : Bool := s.layout.hasDuplicates

end Statement

end SqlBind
