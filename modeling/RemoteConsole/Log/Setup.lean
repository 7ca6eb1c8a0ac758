import RemoteConsole.Log.Filter
import RemoteConsole.Log.Location
import RemoteConsole.Log.Settings

/-!
# Setting up the log

* `Log.Setup`: the filter of a program's log, and where it goes.
* `Setup.ofEnvironment`: the setup that the variables of the environment give, or why the log cannot
  be set up.
* `Setup.lines`: the lines of the log for what the program records.
-/

namespace RemoteConsole.Log

/-- Where a log goes. -/
inductive Sink where
  | nowhere
  | console
  | file (location : Location)
deriving DecidableEq, Repr

/-- The filter of a log, and where it goes. -/
structure Setup where
  filter : Filter
  sink : Sink
deriving DecidableEq, Repr

/-- Why a log cannot be set up: the text of its filter would have to be cut inside of a character,
or its file cannot be opened. -/
inductive SetupFailure where
  | cutCharacter
  | cannotOpen (location : Location)
deriving DecidableEq, Repr

/-- The variable for the general filter. -/
def filterVariable : String := "RUST_LOG"

/-- The filter of the first text that is not malformed, else the informative one. -/
def Filter.ofFirst : List String → Except SetupFailure Filter
  | [] => .ok .info
  | text :: texts =>
    match Filter.read text with
    | .ok f => .ok f
    | .error .malformed => ofFirst texts
    | .error .cutCharacter => .error .cutCharacter

/-- The filter of the settings, else the general one, else the informative one. -/
def Settings.filter (s : Settings) (env : Environment) : Except SetupFailure Filter :=
  Filter.ofFirst (s.level.toList ++ (env.get? filterVariable).toList)

/-- Where the log of the settings goes. -/
def Settings.sink (s : Settings) : Except SetupFailure Sink :=
  match s.path with
  | none => .ok .console
  | some path =>
    let location := Location.ofPath path
    if location.canOpen then .ok (.file location) else .error (.cannotOpen location)

namespace Setup

/-- No log. -/
def off : Setup := ⟨[], .nowhere⟩

/-- The setup that the variables of the environment give. -/
def ofEnvironment (env : Environment) : Except SetupFailure Setup := do
  let settings := Settings.ofEnvironment env
  if settings.isEnabled then return ⟨← settings.filter env, ← settings.sink⟩ else return off

/-- What the log holds of the remarks, each with those of its spans that are kept. -/
def lines (s : Setup) (remarks : List Remark) : List Remark :=
  match s.sink with
  | .nowhere => []
  | _ =>
    (remarks.filter s.filter.keepsRemark).map fun r => { r with spans := s.filter.keptSpans r.spans }

end Setup

end RemoteConsole.Log
