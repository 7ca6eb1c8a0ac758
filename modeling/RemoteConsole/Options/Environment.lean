import RemoteConsole.Environment
import RemoteConsole.Options
import RemoteConsole.Text.Blank

/-!
# Options from the environment

`Options.ofEnvironment` is the default options with the mode and the debounce that the variables
of the environment ask for.
-/

namespace RemoteConsole

/-- The mode that a word asks for, in any case and with blanks around it. -/
def OffloadMode.ofWord? (word : String) : Option OffloadMode :=
  let w := Text.lowerAscii (Text.trim word)
  if w = "auto" then some .auto
  else if ["never", "off", "0", "false", "direct"].contains w then some .never
  else if ["always", "on", "1", "true", "worker"].contains w then some .always
  else none

namespace Options

/-- The variable for the mode. -/
def offloadVariable : String := "CONSOLE_STREAM_OFFLOAD"

/-- The variable for the debounce. -/
def debounceVariable : String := "CONSOLE_STREAM_HEALTH_DEBOUNCE_MS"

/-- The options with the mode of the variable, if it is set. -/
def readOffload (env : Environment) (o : Options) : Except ClientError Options :=
  match env.get? offloadVariable with
  | none => .ok o
  | some raw =>
    match OffloadMode.ofWord? raw with
    | some mode => .ok (o.withOffload mode)
    | none => .error (.config (s!"invalid {offloadVariable} value: " ++ raw))

/-- The options with the debounce of the variable, if it is set. -/
def readDebounce (env : Environment) (o : Options) : Except ClientError Options :=
  match env.get? debounceVariable with
  | none => .ok o
  | some raw =>
    match Environment.parseWord (Text.trim raw) with
    | .ok n => .ok { o with health := { o.health with debounceMs := .ofNat n } }
    | .error e => .error (.config (s!"invalid {debounceVariable}: " ++ e.text))

/-- The default options, changed by the variables that are set. -/
def ofEnvironment (env : Environment) : Except ClientError Options := do
  readDebounce env (← readOffload env default)

end Options

end RemoteConsole
