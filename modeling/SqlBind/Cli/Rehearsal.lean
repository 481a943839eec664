import SqlBind.Cli.FileTree
import SqlBind.Cli.Host
import SqlBind.Postgres.Scripted

/-!
Owns: a host in memory for rehearsing the program, with a tree of files, environment variables and
a scripted server that every connection reaches.
-/

set_option autoImplicit false

namespace SqlBind.Cli

/-- The state of a host in memory. -/
structure Rehearsal where
  tree : FileTree
  environment : List (String × String)
  server : Postgres.ServerState
deriving Inhabited

namespace Rehearsal

/-- Lets an action change the tree, unless it fails. -/
def changeTree (action : FileTree → Except FileFault FileTree) :
    StateM Rehearsal (Except FileFault Unit) := fun r =>
  match action r.tree with
  | .ok tree => (.ok (), { r with tree := tree })
  | .error fault => (.error fault, r)

def host : Host (StateM Rehearsal) Postgres.ServerState where
  lookupVariable name := return (← get).environment.lookup name
  pathExists path := return (← get).tree.pathExists path
  readText path := return (← get).tree.readText path
  createDirectories path := changeTree fun tree => tree.createDirectories path
  writeText path text := changeTree fun tree => tree.writeText path text
  connect _ := return .ok (← get).server
  disconnect server := modify fun r => { r with server := server }
  server := Postgres.Scripted.server

end Rehearsal

end SqlBind.Cli
