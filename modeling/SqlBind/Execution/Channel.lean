import SqlBind.Driver
import SqlBind.Log.Event

/-!
Owns: a connection together with its log, and the actions on the two.
-/

set_option autoImplicit false

namespace SqlBind

/-- A connection with state `σ` and what the log was told about it, oldest first. -/
structure Channel (σ : Type) where
  conn : σ
  log : Array Log.Event

/-- What works on a connection and its log and may fail. -/
abbrev Action (σ α : Type) := EStateM DbError (Channel σ) α

namespace Channel

variable {σ α : Type}

def emit (event : Log.Event) : Action σ Unit :=
  modify fun channel => { channel with log := channel.log.push event }

/-- Makes a driver call and hands over how it ended. The action itself never fails. -/
def attempt (call : EStateM DbError σ α) : Action σ (Except DbError α) := fun channel =>
  match call channel.conn with
  | .ok result conn => .ok (.ok result) { channel with conn := conn }
  | .error e conn => .ok (.error e) { channel with conn := conn }

/-- Makes a driver call and fails if it does. -/
def perform (call : EStateM DbError σ α) : Action σ α := fun channel =>
  match call channel.conn with
  | .ok result conn => .ok result { channel with conn := conn }
  | .error e conn => .error e { channel with conn := conn }

end Channel

end SqlBind
