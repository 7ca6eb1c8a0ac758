import RemoteConsole.Environment
import RemoteConsole.Text.Blank

/-!
# Settings of the log

`Log.Settings` says whether there is a log, what it keeps, and the file that it is written to.
-/

namespace RemoteConsole.Log

/-- Whether there is a log, the filter that goes before the general one, and the file for it. -/
structure Settings where
  isEnabled : Bool
  level : Option String
  path : Option String
deriving DecidableEq, Repr

namespace Settings

/-- The variables that turn the log on and off, the more explicit one first. -/
def switchVariables : List String :=
  ["CONSOLE_STREAM_OBSERVABILITY_ENABLED", "CONSOLE_STREAM_OBSERVABILITY"]

/-- The variable for the filter. -/
def levelVariable : String := "CONSOLE_STREAM_LOG_LEVEL"

/-- The variable for the file. -/
def pathVariable : String := "CONSOLE_STREAM_JSON_LOG_PATH"

/-- What a word says about a switch. -/
def ofWord? (word : String) : Option Bool :=
  let w := Text.lowerAscii (Text.trim word)
  if ["1", "true", "yes", "on", "enabled"].contains w then some true
  else if ["0", "false", "no", "off", "disabled"].contains w then some false
  else none

/-- The text of a variable, unless it is blank. -/
def nonBlank? (env : Environment) (name : String) : Option String :=
  (env.get? name).filter fun s => !Text.isBlankText s

/-- The settings that the variables of the environment give. The log is on unless the first switch
that is set turns it off. -/
def ofEnvironment (env : Environment) : Settings where
  isEnabled := ((switchVariables.findSome? env.get?).bind ofWord?).getD true
  level := nonBlank? env levelVariable
  path := nonBlank? env pathVariable

end Settings

end RemoteConsole.Log
