import SqlBind.Json.Basic

/-!
Owns: the tables of a TOML text while it is read. Every table remembers what brought it about,
because a table may be opened by one header only, and dotted keys extend no table that a header
opened.
-/

set_option autoImplicit false

namespace SqlBind.Toml

/-- What brought a table about. -/
inductive Origin where
  /-- Its own header. -/
  | header
  /-- The header of a table inside it. -/
  | implied
  /-- A dotted key. -/
  | dotted
deriving DecidableEq, Repr, Inhabited

inductive Node where
  /-- A value, which is complete. -/
  | leaf (value : Json)
  | table (origin : Origin) (fields : List (String × Node))
  /-- An array of tables, the newest first. -/
  | tables (elements : List (List (String × Node)))

abbrev Nodes := List (String × Node)

/-- Puts a node under a name, in place of the one that is there. -/
def place (name : String) (node : Node) : Nodes → Nodes
  | [] => [(name, node)]
  | (other, held) :: rest =>
    if other = name then (name, node) :: rest else (other, held) :: place name node rest

def openTable : List String → Nodes → Option Nodes
  | [], _ => none
  | [name], nodes =>
    match nodes.lookup name with
    | none => some (place name (.table .header []) nodes)
    | some (.table .implied fields) => some (place name (.table .header fields) nodes)
    | some _ => none
  | name :: path, nodes =>
    match nodes.lookup name with
    | none => (openTable path []).map fun fields => place name (.table .implied fields) nodes
    | some (.table origin fields) =>
      (openTable path fields).map fun fields => place name (.table origin fields) nodes
    | some (.tables (newest :: earlier)) =>
      (openTable path newest).map fun fields => place name (.tables (fields :: earlier)) nodes
    | some _ => none

def openElement : List String → Nodes → Option Nodes
  | [], _ => none
  | [name], nodes =>
    match nodes.lookup name with
    | none => some (place name (.tables [[]]) nodes)
    | some (.tables elements) => some (place name (.tables ([] :: elements)) nodes)
    | some _ => none
  | name :: path, nodes =>
    match nodes.lookup name with
    | none => (openElement path []).map fun fields => place name (.table .implied fields) nodes
    | some (.table origin fields) =>
      (openElement path fields).map fun fields => place name (.table origin fields) nodes
    | some (.tables (newest :: earlier)) =>
      (openElement path newest).map fun fields => place name (.tables (fields :: earlier)) nodes
    | some _ => none

/-- Enters a value under a key, whose parts but the last lead through tables of dotted keys. -/
def assign (value : Json) : List String → Nodes → Option Nodes
  | [], _ => none
  | [name], nodes =>
    match nodes.lookup name with
    | none => some (place name (.leaf value) nodes)
    | some _ => none
  | name :: path, nodes =>
    match nodes.lookup name with
    | none => (assign value path []).map fun fields => place name (.table .dotted fields) nodes
    | some (.table .header _) => none
    | some (.table origin fields) =>
      (assign value path fields).map fun fields => place name (.table origin fields) nodes
    | some _ => none

/-- Works on the table that a header opened. -/
def within (change : Nodes → Option Nodes) : List String → Nodes → Option Nodes
  | [], nodes => change nodes
  | name :: path, nodes =>
    match nodes.lookup name with
    | some (.table origin fields) =>
      (within change path fields).map fun fields => place name (.table origin fields) nodes
    | some (.tables (newest :: earlier)) =>
      (within change path newest).map fun fields => place name (.tables (fields :: earlier)) nodes
    | _ => none

mutual

def Node.document : Node → Json
  | .leaf value => value
  | .table _ fields => .ofFields (nodeDocuments fields)
  | .tables elements => .array (tableDocuments elements).reverse

def nodeDocuments : List (String × Node) → List (String × Json)
  | [] => []
  | (name, node) :: rest => (name, node.document) :: nodeDocuments rest

def tableDocuments : List (List (String × Node)) → List Json
  | [] => []
  | fields :: rest => .ofFields (nodeDocuments fields) :: tableDocuments rest

end

end SqlBind.Toml
