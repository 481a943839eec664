import SqlBind.Cli.Failure
import SqlBind.Postgres.Server

/-!
Owns: what the program asks of the system it runs on. Nothing is assumed of the answers, so the
same commands run on a real system and on one in memory.
-/

set_option autoImplicit false

namespace SqlBind.Cli

/-- A system that acts in `m`, with connections whose server has a state in `τ`. -/
structure Host (m : Type → Type) (τ : Type) where
  /-- The value of an environment variable, if it is set. -/
  lookupVariable : String → m (Option String)
  pathExists : String → m Bool
  readText : String → m (Except FileFault String)
  /-- Creates a directory and those that it lies in, where they are missing. -/
  createDirectories : String → m (Except FileFault Unit)
  writeText : String → String → m (Except FileFault Unit)
  /-- Connects to the database of a URL. -/
  connect : String → m (Except DbError τ)
  disconnect : τ → m Unit
  /-- What the server of a connection answers. -/
  server : Postgres.Server τ

end SqlBind.Cli
