/-!
Owns: paths of files as texts with slashes: their parts, the directory that holds the last part,
and the ending of its name.
-/

set_option autoImplicit false

namespace SqlBind.Cli.Path

def splitSlashes : List Char → List (List Char)
  | [] => [[]]
  | c :: rest =>
    if c = '/' then [] :: splitSlashes rest
    else
      match splitSlashes rest with
      | first :: more => (c :: first) :: more
      | [] => [[c]]

def joinSlashes : List (List Char) → List Char
  | [] => []
  | [part] => part
  | part :: rest => part ++ '/' :: joinSlashes rest

/-- The parts of a path from the first on; `leading` says that no part came before. Empty parts and
points name nothing, except a point at the very beginning. -/
def isPart (leading : Bool) (part : List Char) : Bool :=
  !part.isEmpty && (leading || part ≠ ['.'])

/-- The stretches up to the last part, without those that name nothing at the end. -/
def upToLastPart (stretches : List (List Char)) : List (List Char) :=
  let named := stretches.zipIdx.filter fun s => isPart (s.2 = 0) s.1
  match named.getLast? with
  | some (_, index) => stretches.take (index + 1)
  | none => []

/-- The path of the directory that holds the last part, if there is a last part. -/
def parent? (path : String) : Option String :=
  let stretches := splitSlashes path.toList
  match (upToLastPart stretches).reverse with
  | [] => none
  | _ :: before =>
    let kept := upToLastPart before.reverse
    if kept.isEmpty then some (if path.toList.head? = some '/' then "/" else "")
    else some (String.ofList (joinSlashes kept))

/-- The path and the directories above it, the nearest first; `fuel` bounds their number. -/
def ancestorsFrom : Nat → String → List String
  | 0, path => [path]
  | fuel + 1, path =>
    match parent? path with
    | some above => path :: ancestorsFrom fuel above
    | none => [path]

/-- The path and the directories above it, the nearest first. Each is shorter than the one
before. -/
def ancestors (path : String) : List String := ancestorsFrom path.length path

/-- The name of the last part, unless it leads to another directory. -/
def fileName? (path : String) : Option (List Char) :=
  match (upToLastPart (splitSlashes path.toList)).getLast? with
  | some name => if name = ['.'] || name = ['.', '.'] then none else some name
  | none => none

/-- What follows the last point of the name, unless the point begins it. -/
def extension? (path : String) : Option String := do
  let name ← fileName? path
  let (ending, before) := name.reverse.span (· ≠ '.')
  match before with
  | _ :: _ :: _ => return String.ofList ending.reverse
  | _ => none

end SqlBind.Cli.Path
