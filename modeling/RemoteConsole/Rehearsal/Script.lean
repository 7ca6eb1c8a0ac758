import RemoteConsole.Server

/-!
# Scripts

A script lists what the fetches of a rehearsal come to. After its end the console is closed.
-/

namespace RemoteConsole.Rehearsal

/-- What the fetches come to, in order. -/
abbrev Script := Array Call

namespace Script

/-- What the fetch with the number comes to. -/
def call (script : Script) (n : Nat) : Call := script.getD n ⟨0, .answer (.ok none)⟩

end Script

/-- The failures of connection attempts; the last goes on for ever. -/
def attempts (failures : List (Option FetchError)) (n : Nat) : Option FetchError :=
  match failures[n]? with
  | some f => f
  | none => (failures.getLast?).bind id

end RemoteConsole.Rehearsal
