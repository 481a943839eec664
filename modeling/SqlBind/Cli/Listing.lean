import SqlBind.Statement

/-!
Owns: how a compiled statement is shown to a reader.
-/

set_option autoImplicit false

namespace SqlBind.Statement

/-- A line of names after a title. -/
def nameLine (title : String) (names : List String) : String :=
  title ++ ": [" ++ ", ".intercalate names ++ "]\n"

/-- The SQL and its placeholder names; the names to bind follow if they differ. -/
def listing (s : Statement) : String :=
  s.sql ++ "\n" ++ nameLine "keys" s.keys
    ++ (if s.bindKeys = s.keys then "" else nameLine "binds" s.bindKeys)

end SqlBind.Statement
