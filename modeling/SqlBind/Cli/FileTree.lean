import SqlBind.Cli.Failure

/-!
Owns: a tree of files in memory for rehearsing the program. A path is followed part by part from
the root or from the working directory: a point stays, two points go up, every other name must
lead to a directory unless it is the last.
-/

set_option autoImplicit false

namespace SqlBind.Cli

/-- What stands under a name. -/
inductive FileNode where
  | file (text : String)
  | directory (entries : List (String × FileNode))
deriving Inhabited

abbrev DirectoryEntries := List (String × FileNode)

/-- The entries of the root, and the directory that relative paths begin in. -/
structure FileTree where
  root : DirectoryEntries
  working : List String
deriving Inhabited

/-- Where a path leads. A location is the names from the root on. -/
inductive FilePlace where
  | directory
  | file (location : List String) (text : String)
  /-- Nothing is there yet, in a directory that is there. -/
  | free (location : List String)
deriving DecidableEq, Repr, Inhabited

/-- The entries with another node under a name. -/
def enterNode (name : String) (node : FileNode) : DirectoryEntries → DirectoryEntries
  | [] => [(name, node)]
  | (other, held) :: rest =>
    if other = name then (name, node) :: rest else (other, held) :: enterNode name node rest

/-- The entries with another node at a location, if its directory is there. -/
def plantNode (node : FileNode) : List String → DirectoryEntries → DirectoryEntries
  | [], entries => entries
  | [name], entries => enterNode name node entries
  | name :: rest, entries =>
    match entries.lookup name with
    | some (.directory inner) => enterNode name (.directory (plantNode node rest inner)) entries
    | _ => entries

mutual

def FileNode.files (path : String) : FileNode → List (String × String)
  | .file text => [(path, text)]
  | .directory entries => entryFiles (path ++ "/") entries

def entryFiles (above : String) : List (String × FileNode) → List (String × String)
  | [] => []
  | (name, node) :: rest => node.files (above ++ name) ++ entryFiles above rest

end

/-- The directories that a path has gone through, the latest first, each with its name and its
entries. The root is not among them. -/
abbrev Trail := List (String × DirectoryEntries)

/-- The location of a name in the directory that a trail has come to. -/
def locationOf (trail : Trail) (name : String) : List String :=
  (name :: trail.map Prod.fst).reverse

namespace FileTree

def put (tree : FileTree) (location : List String) (node : FileNode) : FileTree :=
  { tree with root := plantNode node location tree.root }

def entriesAt (tree : FileTree) : Trail → DirectoryEntries
  | [] => tree.root
  | (_, entries) :: _ => entries

/-- The trail through the names of a location, as far as they are directories. -/
def trailTo (tree : FileTree) (trail : Trail) : List String → Trail
  | [] => trail
  | name :: rest =>
    match (tree.entriesAt trail).lookup name with
    | some (.directory entries) => trailTo tree ((name, entries) :: trail) rest
    | _ => trail

/-- The most octets of a name. -/
def nameLimit : Nat := 255

/-- The octets that a path must stay below. -/
def pathLimit : Nat := 4096

/-- Follows the parts of a path from a directory. -/
def follow (tree : FileTree) (trail : Trail) : List String → Except FileFault FilePlace
  | [] => .ok .directory
  | part :: rest =>
    if part = "" || part = "." then follow tree trail rest
    else if part = ".." then follow tree trail.tail rest
    else if nameLimit < part.utf8ByteSize then .error .nameTooLong
    else
      match (tree.entriesAt trail).lookup part with
      | some (.directory entries) => follow tree ((part, entries) :: trail) rest
      | some (.file text) =>
        if rest.isEmpty then .ok (.file (locationOf trail part) text) else .error .notDirectory
      | none => if rest.isEmpty then .ok (.free (locationOf trail part)) else .error .missing

def endsInSlash (path : String) : Bool := path.toList.getLast? = some '/'

/-- Where a path begins and the parts that it goes on with, without the slashes at its end. -/
def route (tree : FileTree) (path : String) : Except FileFault (Trail × List String) :=
  let chars := path.toList
  if chars.contains '\x00' then .error .unusableName
  else if chars.isEmpty then .error .missing
  else if pathLimit ≤ path.utf8ByteSize then .error .nameTooLong
  else
    let parts := (Path.splitSlashes chars).map String.ofList
    .ok (if chars.head? = some '/' then [] else tree.trailTo [] tree.working,
      (parts.reverse.dropWhile (· = "")).reverse)

/-- Where a path leads; slashes at its end are not looked at. -/
def locate (tree : FileTree) (path : String) : Except FileFault FilePlace := do
  let (start, parts) ← tree.route path
  tree.follow start parts

def isDirectory (tree : FileTree) (path : String) : Bool :=
  match tree.locate path with
  | .ok .directory => true
  | _ => false

def pathExists (tree : FileTree) (path : String) : Bool :=
  match tree.locate path with
  | .ok .directory => true
  | .ok (.file _ _) => !endsInSlash path
  | _ => false

def readText (tree : FileTree) (path : String) : Except FileFault String := do
  match ← tree.locate path with
  | .directory => throw .isDirectory
  | .file _ text => if endsInSlash path then throw .notDirectory else return text
  | .free _ => throw .missing

/-- The tree after a text was written to a file. A path that ends in a slash is refused before its
last name is looked up, so it does not matter how long that name is. -/
def writeText (tree : FileTree) (path text : String) : Except FileFault FileTree := do
  let (start, parts) ← tree.route path
  if endsInSlash path then
    match ← tree.follow start parts.dropLast with
    | .directory => throw .isDirectory
    | .file _ _ => throw .notDirectory
    | .free _ => throw .missing
  else
    match ← tree.follow start parts with
    | .directory => throw .isDirectory
    | .file location _ | .free location => return tree.put location (.file text)

def createDirectory (tree : FileTree) (path : String) : Except FileFault FileTree := do
  match ← tree.locate path with
  | .free location => return tree.put location (.directory [])
  | _ => throw .exists

/-- The tree with a directory that is created only if the ones above it, the rest of the list, have
to be created as well, or are there. -/
def createChain (tree : FileTree) : List String → Except FileFault FileTree
  | [] => .error (.other "failed to create whole tree")
  | path :: above =>
    if path = "" then .ok tree
    else
      match tree.createDirectory path with
      | .ok created => .ok created
      | .error .missing => do
        let tree ← createChain tree above
        match tree.createDirectory path with
        | .ok created => return created
        | .error fault => if tree.isDirectory path then return tree else throw fault
      | .error fault => if tree.isDirectory path then .ok tree else .error fault

/-- The tree after a directory and the missing ones above it were created. -/
def createDirectories (tree : FileTree) (path : String) : Except FileFault FileTree :=
  tree.createChain (Path.ancestors path)

/-- The files in the working directory, by the paths that lead to them from there. -/
def files (tree : FileTree) : List (String × String) :=
  entryFiles "" (tree.entriesAt (tree.trailTo [] tree.working))

end FileTree

end SqlBind.Cli
