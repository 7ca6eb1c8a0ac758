import RemoteConsole.Environment
import RemoteConsole.Log.Record
import RemoteConsole.Text.Blank

/-!
# Thresholds

* `Threshold`: up to which level something is kept.
* `Threshold.keeps`: whether a level is kept.
* `Threshold.highest`: the threshold that keeps what one of several keeps.
* `Threshold.ofWord?`: the threshold that a word means.
-/

namespace RemoteConsole.Log

/-- The least grave level that is kept; `none` keeps nothing. -/
abbrev Threshold := Option Level

namespace Threshold

/-- The number of levels that are kept. -/
def rank : Threshold → Nat
  | none => 0
  | some l => l.rank

/-- The threshold keeps the level. -/
def keeps (t : Threshold) (l : Level) : Bool := l.rank ≤ rank t

/-- The higher of two thresholds. -/
def max (s t : Threshold) : Threshold := if rank s ≤ rank t then t else s

/-- The highest of several thresholds. -/
def highest : List Threshold → Threshold
  | [] => none
  | t :: ts => max t (highest ts)

/-- The threshold with a number. -/
def ofNumber? : Nat → Option Threshold
  | 0 => some none
  | 1 => some (some .error)
  | 2 => some (some .warn)
  | 3 => some (some .info)
  | 4 => some (some .debug)
  | 5 => some (some .trace)
  | _ => none

/-- The threshold with a name in small letters. -/
def ofName? (name : String) : Option Threshold :=
  if name = "off" then some none
  else if name = "error" then some (some .error)
  else if name = "warn" then some (some .warn)
  else if name = "info" then some (some .info)
  else if name = "debug" then some (some .debug)
  else if name = "trace" then some (some .trace)
  else none

/-- The threshold that a word means, by its number or by its name in any case. -/
def ofWord? (word : String) : Option Threshold :=
  match Environment.parseWord word with
  | .ok n => ofNumber? n
  | .error _ => ofName? (Text.lowerAscii word)

end Threshold

end RemoteConsole.Log
