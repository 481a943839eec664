import SqlBind.Error
import SqlBind.Text.Blank

/-!
Owns: the placeholder conventions of database drivers, their names, and the token each of them
writes for a placeholder.
-/

set_option autoImplicit false

namespace SqlBind

/-- How a driver expects placeholders to be written. -/
inductive ParamStyle where
  /-- A fixed symbol: `?`. -/
  | qmark
  /-- A conversion mark: `%s`. -/
  | format
  /-- Renumbered names: `:p1`, `:p2`. -/
  | numeric
  /-- The placeholder itself: `:name`. The driver binds by name. -/
  | named
  /-- Numbered positions: `$1`, `$2`. -/
  | dollar
deriving DecidableEq, Repr, Inhabited

namespace ParamStyle

def name : ParamStyle → String
  | qmark => "qmark"
  | format => "format"
  | numeric => "numeric"
  | named => "named"
  | dollar => "dollar"

/-- The style with exactly this name. `numbered` is a second name of `numeric`. -/
def ofName? (text : String) : Option ParamStyle :=
  match text with
  | "qmark" => some qmark
  | "format" => some format
  | "numeric" | "numbered" => some numeric
  | "named" => some named
  | "dollar" => some dollar
  | _ => none

/-- The text as styles are looked up: without blanks around it, ASCII letters in lower case. -/
def lookupForm (text : String) : String :=
  (String.ofList (Text.trim text.toList)).map Char.toLower

/-- The style that a user means: one of the names, or the symbol of the style. The error shows the
form in which the text was looked up. -/
def parse (text : String) : Except DbError ParamStyle :=
  let form := lookupForm text
  match ofName? form, form with
  | some style, _ => .ok style
  | none, "?" => .ok qmark
  | none, "%s" => .ok format
  | none, ":" => .ok named
  | none, "$" => .ok dollar
  | none, _ => .error (.config ("unknown paramstyle: " ++ form))

/-- The style of a driver known by its module name; unknown drivers take `qmark`. -/
def forDriver (driver : String) : ParamStyle :=
  match driver.map Char.toLower with
  | "pymysql" | "mysql" | "mysqldb" | "psycopg2" => format
  | "cx_oracle" | "oracle" | "oracledb" => named
  | "postgres" | "postgresql" | "tokio-postgres" | "tokio_postgres" => dollar
  | _ => qmark

/-- The token for the placeholder `name`, the `ordinal`-th of its statement, counted from 1. -/
def token (style : ParamStyle) (ordinal : Nat) (name : List Char) : List Char :=
  match style with
  | qmark => ['?']
  | format => ['%', 's']
  | numeric => ':' :: 'p' :: Nat.toDigits 10 ordinal
  | named => ':' :: name
  | dollar => '$' :: Nat.toDigits 10 ordinal

end ParamStyle

end SqlBind
