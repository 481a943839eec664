/-!
Owns: references to environment variables in a text, written as a name in braces after a dollar
sign. They are replaced in one pass from left to right; what they are replaced by is not read
again.
-/

set_option autoImplicit false

namespace SqlBind.Cli

inductive EnvFault where
  /-- No brace closes the reference that begins before this text. -/
  | unterminated (after : List Char)
  | emptyName
  | unset (name : List Char)
deriving DecidableEq, Repr, Inhabited

namespace EnvFault

def message : EnvFault → String
  | unterminated after => "unterminated env var reference: $\x7b" ++ String.ofList after
  | emptyName => "invalid env var reference: $\x7b\x7d"
  | unset name => "missing env var for config expansion: " ++ String.ofList name

end EnvFault

namespace EnvReference

/-- Where the reader of a text stands. -/
inductive State where
  | outside
  /-- After a dollar sign that may begin a reference. -/
  | dollar
  /-- Inside a reference: its name so far, newest first. -/
  | name (read : List Char)
deriving DecidableEq, Repr, Inhabited

/-- The text with its references replaced by what `lookup` gives for their names. -/
def expandFrom (lookup : String → Option String) (state : State) :
    List Char → Except EnvFault (List Char)
  | [] =>
    match state with
    | .outside => .ok []
    | .dollar => .ok ['$']
    | .name read => .error (.unterminated read.reverse)
  | c :: rest =>
    match state with
    | .outside =>
      if c = '$' then expandFrom lookup .dollar rest
      else (expandFrom lookup .outside rest).map (c :: ·)
    | .dollar =>
      if c = '\x7b' then expandFrom lookup (.name []) rest
      else if c = '$' then (expandFrom lookup .dollar rest).map ('$' :: ·)
      else (expandFrom lookup .outside rest).map fun text => '$' :: c :: text
    | .name read =>
      if c = '\x7d' then
        let name := read.reverse
        if name.isEmpty then .error .emptyName
        else
          match lookup (String.ofList name) with
          | none => .error (.unset name)
          | some value => (expandFrom lookup .outside rest).map (value.toList ++ ·)
      else expandFrom lookup (.name (c :: read)) rest

def expand (lookup : String → Option String) (text : String) : Except EnvFault String :=
  (expandFrom lookup .outside text.toList).map String.ofList

/-- The names that the references of a text mention. -/
def namesFrom (state : State) : List Char → List String
  | [] => []
  | c :: rest =>
    match state with
    | .outside => namesFrom (if c = '$' then .dollar else .outside) rest
    | .dollar =>
      namesFrom (if c = '\x7b' then .name [] else if c = '$' then .dollar else .outside) rest
    | .name read =>
      if c = '\x7d' then String.ofList read.reverse :: namesFrom .outside rest
      else namesFrom (.name (c :: read)) rest

/-- The variables that replacing the references of a text may ask for. -/
def names (text : String) : List String := namesFrom .outside text.toList

end EnvReference

end SqlBind.Cli
