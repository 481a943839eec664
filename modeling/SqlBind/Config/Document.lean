import SqlBind.Config
import SqlBind.Json.Basic

/-!
Owns: settings as documents. A section of settings is an object of named fields, or a list of the
fields in their order; what is left out takes its default. A choice is a name, or an object whose
only field is that name.

Documents of different formats differ in two points, which a dialect decides.
-/

set_option autoImplicit false

namespace SqlBind

/-- What the format of a settings document decides. -/
structure DocumentDialect where
  /-- What may stand under the name of a choice. -/
  isEmptyChoice : Json → Bool
  /-- Whether a list may hold more than the fields of its section. -/
  allowsSurplus : Bool

namespace DocumentDialect

def json : DocumentDialect where
  isEmptyChoice
    | .null => true
    | _ => false
  allowsSurplus := false

def file : DocumentDialect where
  isEmptyChoice
    | .object fields => fields.isEmpty
    | .array items => items.isEmpty
    | _ => false
  allowsSurplus := true

end DocumentDialect

namespace Config

def bool? : Json → Option Bool
  | .bool value => some value
  | _ => none

def text? : Json → Option String
  | .string value => some value
  | _ => none

/-- A whole number of 64 bits without sign. -/
def nat? : Json → Option Nat
  | .number (.integer i) => if 0 ≤ i && i < Int.pow 2 64 then some i.toNat else none
  | _ => none

/-- A choice by its name. -/
def choice? {α : Type} (dialect : DocumentDialect) (ofName? : String → Option α) :
    Json → Option α
  | .string name => ofName? name
  | .object [(name, content)] => if dialect.isEmptyChoice content then ofName? name else none
  | _ => none

/-- What is null or absent is none. -/
def optional? {α : Type} (read : Json → Option α) : Json → Option (Option α)
  | .null => some none
  | document => (read document).map some

/-- The parts of a section under `names`, in their order: its fields, or the items of a list. With
`closed` a section has no fields of other names. -/
def section? (dialect : DocumentDialect) (closed : Bool) (names : List String) :
    Json → Option (List (Option Json))
  | .object fields =>
    if closed && fields.any fun field => !names.contains field.1 then none
    else some (names.map fun name => fields.lookup name)
  | .array items =>
    if names.length < items.length && !dialect.allowsSurplus then none
    else some ((List.range names.length).map fun i => items[i]?)
  | _ => none

/-- A part of a section, or its default. -/
def partOr {α : Type} (default : α) (read : Json → Option α) : Option Json → Option α
  | none => some default
  | some document => read document

def executor? (dialect : DocumentDialect) (document : Json) : Option ExecutorConfig := do
  let names := ["chunk_size", "verbose_first_chunk", "commit_chunks", "failure_policy"]
  let standard : ExecutorConfig := {}
  match ← section? dialect true names document with
  | [size, verbose, commit, policy] =>
    return ⟨← partOr standard.chunkSize nat? size,
      ← partOr standard.verboseFirstChunk bool? verbose,
      ← partOr standard.commitChunks bool? commit,
      ← partOr standard.failurePolicy (choice? dialect FailurePolicy.ofName?) policy⟩
  | _ => none

/-- The settings of a session. Fields of other names are passed over. -/
def session? (dialect : DocumentDialect) (document : Json) : Option SessionConfig := do
  let names := ["param_style", "executor", "compile_cache", "autocommit"]
  let standard : SessionConfig := {}
  match ← section? dialect false names document with
  | [style, executor, cache, autocommit] =>
    return ⟨← partOr none (optional? (choice? dialect ParamStyle.ofName?)) style,
      ← partOr {} (executor? dialect) executor,
      ← partOr standard.compileCache nat? cache,
      ← partOr standard.autocommit bool? autocommit⟩
  | _ => none

def executorDocument (c : ExecutorConfig) : Json :=
  .ofFields [("chunk_size", .nat c.chunkSize), ("verbose_first_chunk", .bool c.verboseFirstChunk),
    ("commit_chunks", .bool c.commitChunks), ("failure_policy", .string c.failurePolicy.name)]

def sessionDocument (c : SessionConfig) : Json :=
  .ofFields [("param_style", match c.paramStyle with
      | some style => .string style.name
      | none => .null),
    ("executor", executorDocument c.executor), ("compile_cache", .nat c.compileCache),
    ("autocommit", .bool c.autocommit)]

end Config

end SqlBind
