import SqlBind.Cli.ConfigFile

/-!
Owns: the settings file that a user begins with. It names its database by an environment variable
and shows every setting with a value that it may have.
-/

set_option autoImplicit false

namespace SqlBind.Cli.ConfigFile

/-- The lines of the file that a user begins with. -/
def templateLines : List String := [
  "version = \"1\"",
  "",
  "[database]",
  "url = \"$\x7bDATABASE_URL\x7d\"",
  "",
  "[session]",
  "# Placeholder style sent to the driver; PostgreSQL uses \"dollar\".",
  "# param_style = \"dollar\"",
  "# Compiled statements to keep (0 disables the cache).",
  "compile_cache = 64",
  "",
  "[executor]",
  "chunk_size = 10000",
  "verbose_first_chunk = false",
  "commit_chunks = true",
  "failure_policy = \"abort\" # abort | isolate"]

def template : String := String.join (templateLines.map (· ++ "\n"))

end SqlBind.Cli.ConfigFile
