import SqlBind.ParamStyle

/-!
Owns: the command line. A command is followed by options, by marks that take no value, and by
operands; an option has its value in the next argument, whatever that looks like, or after an
equals sign in its own.
-/

set_option autoImplicit false

namespace SqlBind.Cli

inductive HelpTopic where
  | root
  | compile
  | load
  | init
deriving DecidableEq, Repr, Inhabited

inductive UsageFault where
  | unknownCommand (word : String)
  | unknownOption (word : String)
  /-- An option is the last argument and has no value. -/
  | valueMissing (option : String)
  | unexpected (word : String)
  | sqlArgumentMissing
  | sqlOptionMissing
  | fileMissing
  | chunkSize (text : String)
  | style (error : DbError)
deriving Inhabited

namespace UsageFault

def message : UsageFault → String
  | unknownCommand word => "unknown command: " ++ word
  | unknownOption word => "unknown option: " ++ word
  | valueMissing option => option ++ " requires a value"
  | unexpected word => "unexpected argument: " ++ word
  | sqlArgumentMissing => "compile requires a SQL argument"
  | sqlOptionMissing => "load requires --sql"
  | fileMissing => "load requires an input file"
  | chunkSize text => "invalid --chunk-size: " ++ text
  | style error => error.message

end UsageFault

/-- What a loading of records was asked for. -/
structure LoadRequest where
  config : String
  database : Option String
  chunkSize : Option Nat
  isolate : Bool
  sql : String
  file : String
deriving DecidableEq, Repr, Inhabited

inductive Command where
  | help (topic : HelpTopic)
  | compile (style : ParamStyle) (sql : String)
  | load (request : LoadRequest)
  | init (config : String)
deriving DecidableEq, Repr, Inhabited

/-! ### Reading the arguments of a command -/

/-- An option with a value, which it enters into a draft of the request. -/
structure ValueOption (δ : Type) where
  name : String
  enter : String → δ → Except UsageFault δ

/-- What may follow a command. -/
structure Grammar (δ : Type) where
  /-- Marks without a value. -/
  marks : List (String × (δ → δ))
  options : List (ValueOption δ)
  /-- Enters an argument that is neither a mark nor an option. -/
  operand : String → δ → Except UsageFault δ

namespace Grammar

variable {δ : Type}

def asksForHelp (word : String) : Bool := word = "-h" || word = "--help"

/-- What follows `beginning` in a text that begins with it. -/
def after? : List Char → List Char → Option (List Char)
  | [], text => some text
  | c :: beginning, d :: text => if c = d then after? beginning text else none
  | _ :: _, [] => none

/-- The value that an argument gives to the option of this name after an equals sign. -/
def attachedValue? (name word : String) : Option String :=
  (after? (name.toList ++ ['=']) word.toList).map String.ofList

/-- The first option that an argument gives a value to, with the value. -/
def attached? (options : List (ValueOption δ)) (word : String) :
    Option (ValueOption δ × String) :=
  options.findSome? fun option => (attachedValue? option.name word).map fun value => (option, value)

/-- The draft of a request after all arguments, or none if one of them asks for help. -/
def read (grammar : Grammar δ) (draft : δ) : List String → Except UsageFault (Option δ)
  | [] => .ok (some draft)
  | word :: rest =>
    if asksForHelp word then .ok none
    else
      match grammar.marks.lookup word with
      | some mark => read grammar (mark draft) rest
      | none =>
        match grammar.options.find? fun option => option.name = word with
        | some option =>
          match rest with
          | [] => .error (.valueMissing option.name)
          | value :: rest => do read grammar (← option.enter value draft) rest
        | none =>
          match attached? grammar.options word with
          | some (option, value) => do read grammar (← option.enter value draft) rest
          | none => do read grammar (← grammar.operand word draft) rest

def refuseOption (word : String) : Except UsageFault Unit :=
  if (after? ['-', '-'] word.toList).isSome then .error (.unknownOption word) else .ok ()

end Grammar

/-! ### The commands -/

def defaultConfig : String := "dbbind.toml"

structure CompileDraft where
  style : ParamStyle := .qmark
  sql : Option String := none
deriving DecidableEq, Repr, Inhabited

structure LoadDraft where
  config : String := defaultConfig
  database : Option String := none
  chunkSize : Option Nat := none
  isolate : Bool := false
  sql : Option String := none
  file : Option String := none
deriving DecidableEq, Repr, Inhabited

structure InitDraft where
  config : String := defaultConfig
deriving DecidableEq, Repr, Inhabited

/-- A whole number of 64 bits without sign, in decimal; a plus may stand before it. -/
def count? (text : String) : Option Nat :=
  let digits := match text.toList with
    | '+' :: digits => digits
    | digits => digits
  if digits.isEmpty || !digits.all Char.isDigit then none
  else
    let value := digits.foldl (fun value c => 10 * value + (c.toNat - '0'.toNat)) 0
    if value < Nat.pow 2 64 then some value else none

namespace CompileDraft

/-- The arguments of `compile`: the statement and its convention. -/
def grammar : Grammar CompileDraft where
  marks := []
  options := [⟨"--style", fun value draft =>
    match ParamStyle.parse value with
    | .ok style => .ok { draft with style := style }
    | .error e => .error (.style e)⟩]
  operand word draft := do
    Grammar.refuseOption word
    if draft.sql.isSome then .error (.unexpected word) else .ok { draft with sql := some word }

def finish (draft : CompileDraft) : Except UsageFault Command :=
  match draft.sql with
  | some sql => .ok (.compile draft.style sql)
  | none => .error .sqlArgumentMissing

end CompileDraft

namespace LoadDraft

/-- The arguments of `load`: the settings, the statement and the file of records. -/
def grammar : Grammar LoadDraft where
  marks := [("--isolate", fun draft => { draft with isolate := true })]
  options := [
    ⟨"--config", fun value draft => .ok { draft with config := value }⟩,
    ⟨"--database", fun value draft => .ok { draft with database := some value }⟩,
    ⟨"--chunk-size", fun value draft =>
      match count? value with
      | some size => .ok { draft with chunkSize := some size }
      | none => .error (.chunkSize value)⟩,
    ⟨"--sql", fun value draft => .ok { draft with sql := some value }⟩]
  operand word draft := do
    Grammar.refuseOption word
    if draft.file.isSome then .error (.unexpected word) else .ok { draft with file := some word }

def finish (draft : LoadDraft) : Except UsageFault Command :=
  match draft.sql, draft.file with
  | none, _ => .error .sqlOptionMissing
  | some _, none => .error .fileMissing
  | some sql, some file =>
    .ok (.load ⟨draft.config, draft.database, draft.chunkSize, draft.isolate, sql, file⟩)

end LoadDraft

namespace InitDraft

/-- The arguments of `init`: where to write. -/
def grammar : Grammar InitDraft where
  marks := []
  options := [⟨"--config", fun value draft => .ok { draft with config := value }⟩]
  operand word _ := .error (.unexpected word)

end InitDraft

namespace Command

/-- A command from its draft; none stands for a request for help. -/
def ofDraft {δ : Type} (topic : HelpTopic) (finish : δ → Except UsageFault Command) :
    Option δ → Except UsageFault Command
  | none => .ok (.help topic)
  | some draft => finish draft

/-- The command that the arguments of the program give. -/
def parse : List String → Except UsageFault Command
  | [] => .ok (.help .root)
  | word :: rest =>
    match word with
    | "-h" | "--help" => .ok (.help .root)
    | "compile" => do ofDraft .compile CompileDraft.finish (← CompileDraft.grammar.read {} rest)
    | "load" => do ofDraft .load LoadDraft.finish (← LoadDraft.grammar.read {} rest)
    | "init" => do
      ofDraft .init (fun draft => .ok (.init draft.config)) (← InitDraft.grammar.read {} rest)
    | _ => .error (.unknownCommand word)

end Command

end SqlBind.Cli
