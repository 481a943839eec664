import SqlBind.Cli.Arguments
import SqlBind.Cli.ConfigFile
import SqlBind.Cli.RecordFile

/-!
Owns: everything that ends the program without success, and the text it leaves with.
-/

set_option autoImplicit false

namespace SqlBind.Cli

inductive FileFault where
  | missing
  | denied
  | exists
  | notDirectory
  | isDirectory
  | nameTooLong
  /-- A name with a null character in it. -/
  | unusableName
  | notText
  /-- Anything else, in the words of the system. -/
  | other (text : String)
deriving DecidableEq, Repr, Inhabited

namespace FileFault

/-- The text of the complaint. -/
def message : FileFault → String
  | missing => "No such file or directory (os error 2)"
  | denied => "Permission denied (os error 13)"
  | .exists => "File exists (os error 17)"
  | notDirectory => "Not a directory (os error 20)"
  | isDirectory => "Is a directory (os error 21)"
  | nameTooLong => "File name too long (os error 36)"
  | unusableName => "file name contained an unexpected NUL byte"
  | notText => "stream did not contain valid UTF-8"
  | other text => text

end FileFault

inductive Failure where
  | usage (fault : UsageFault)
  | library (error : DbError)
  | configUnreadable (path : String) (fault : FileFault)
  | configInvalid (path : String) (fault : ConfigFault)
  /-- The settings that stand in for a missing file are refused. -/
  | standardConfig (fault : ConfigFault)
  | recordsUnreadable (path : String) (fault : FileFault)
  | recordsInvalid (path : String) (fault : RecordFileFault)
  | recordsFailed (failed total : Nat)
  | overwrite (path : String)
  | directory (path : String) (fault : FileFault)
  | unwritable (path : String) (fault : FileFault)
deriving Inhabited

/-- What is said about texts that cannot be read. -/
structure Wording where
  json : String := "not valid JSON"
  toml : String := "not a valid settings file"
deriving DecidableEq, Repr, Inhabited

namespace Failure

/-- The text of a failure: the error and what is behind it. -/
def message (wording : Wording) : Failure → String
  | usage fault => fault.message
  | library error => ": ".intercalate (error.message :: error.causes)
  | configUnreadable path fault => "failed to read config file " ++ path ++ ": " ++ fault.message
  | configInvalid path fault =>
    "invalid config file " ++ path ++ ": " ++ fault.message wording.toml
  | standardConfig fault => fault.message wording.toml
  | recordsUnreadable path fault => "failed to read " ++ path ++ ": " ++ fault.message
  | recordsInvalid path fault => path ++ ": " ++ fault.message wording.json
  | recordsFailed failed total =>
    toString failed ++ " of " ++ toString total ++ " records failed"
  | overwrite path => "refusing to overwrite existing file: " ++ path
  | directory path fault => "failed to create directory " ++ path ++ ": " ++ fault.message
  | unwritable path fault => "failed to write " ++ path ++ ": " ++ fault.message

end Failure

/-- What a run printed, and how it failed if it did. -/
structure Report where
  output : String := ""
  complaints : String := ""
  failure : Option Failure := none
deriving Inhabited

end SqlBind.Cli
