/-!
# Log records

`Log.Record` is one line of the log: its level, its target, and its fields with the message first.
-/

namespace RemoteConsole.Log

/-- How grave a record is. -/
inductive Level where
  | error
  | warn
  | info
  | debug
  | trace
deriving DecidableEq, Repr

/-- The name of a level. -/
def Level.name : Level → String
  | .error => "ERROR"
  | .warn => "WARN"
  | .info => "INFO"
  | .debug => "DEBUG"
  | .trace => "TRACE"

/-- The rank of a level, the gravest first. -/
def Level.rank : Level → Nat
  | .error => 1
  | .warn => 2
  | .info => 3
  | .debug => 4
  | .trace => 5

/-- One line of the log. -/
structure Record where
  level : Level
  target : String
  fields : List (String × String)
deriving DecidableEq, Repr

/-- A record with a message and further fields. -/
def Record.of (level : Level) (target message : String) (fields : List (String × String)) :
    Record :=
  ⟨level, target, ("message", message) :: fields⟩

end RemoteConsole.Log
