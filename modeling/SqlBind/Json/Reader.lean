import SqlBind.Json.Token

/-!
Owns: reading a JSON document from its tokens, by a machine that keeps the open brackets on a
stack and takes one token at a time.
-/

set_option autoImplicit false

namespace SqlBind.Json

/-- A bracket that is still open, with what was read inside it. -/
inductive Frame where
  /-- The items so far, newest first. -/
  | array (items : List Json)
  | object (fields : List (String × Json))
  /-- An object whose field `name` awaits its value. -/
  | field (fields : List (String × Json)) (name : String)

/-- What the next token may be. -/
inductive Expectation where
  /-- A value; with `closable` also the bracket that ends an empty array. -/
  | value (closable : Bool)
  /-- A field name; with `closable` also the bracket that ends an empty object. -/
  | name (closable : Bool)
  | colon
  /-- A comma or the closing bracket. -/
  | separator
  /-- Nothing: the document is complete. -/
  | nothing (document : Json)

/-- The open brackets, innermost first, and what may follow. -/
structure ReaderState where
  stack : List Frame
  expects : Expectation

/-- The state after a complete value inside the brackets of `stack`. -/
def deliver (value : Json) : List Frame → Option ReaderState
  | [] => some ⟨[], .nothing value⟩
  | .array items :: outer => some ⟨.array (value :: items) :: outer, .separator⟩
  | .field fields name :: outer =>
    some ⟨.object (Fields.insert name value fields) :: outer, .separator⟩
  | .object _ :: _ => none

/-- Opens a bracket, unless `limit` of them are open already. -/
def descend (limit : Nat) (stack : List Frame) (frame : Frame) (expects : Expectation) :
    Option ReaderState :=
  if stack.length < limit then some ⟨frame :: stack, expects⟩ else none

def close : List Frame → Token → Option ReaderState
  | .array items :: outer, .closeArray => deliver (.array items.reverse) outer
  | .object fields :: outer, .closeObject => deliver (.object fields) outer
  | _, _ => none

def readStep (limit : Nat) (state : ReaderState) (token : Token) : Option ReaderState :=
  match state.expects, token with
  | .value _, .openArray => descend limit state.stack (.array []) (.value true)
  | .value _, .openObject => descend limit state.stack (.object []) (.name true)
  | .value _, .text value => deliver (.string value) state.stack
  | .value _, .constant value => deliver value state.stack
  | .value true, .closeArray => close state.stack token
  | .name _, .text name =>
    match state.stack with
    | .object fields :: outer => some ⟨.field fields name :: outer, .colon⟩
    | _ => none
  | .name true, .closeObject => close state.stack token
  | .colon, .colon => some ⟨state.stack, .value false⟩
  | .separator, .comma =>
    match state.stack with
    | .array _ :: _ => some ⟨state.stack, .value false⟩
    | .object _ :: _ => some ⟨state.stack, .name false⟩
    | _ => none
  | .separator, .closeArray => close state.stack token
  | .separator, .closeObject => close state.stack token
  | _, _ => none

def read? (limit : Nat) (text : List Char) : Option Json := do
  let tokens ← tokens? text
  let state ← tokens.foldlM (readStep limit) ⟨[], .value false⟩
  match state.expects with
  | .nothing document => return document
  | _ => none

/-- How deep the brackets of a record file may be nested. -/
def nestingLimit : Nat := 127

end SqlBind.Json
