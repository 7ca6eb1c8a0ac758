/-!
# Broken steps

* `Panic`: a collaborator broke off in the middle of a call.
* `Fault`: a step of the library itself has no result.
-/

namespace RemoteConsole

/-- Why a collaborator broke off: with a text, or with a value that is none. -/
inductive Panic where
  | message (text : String)
  | other
deriving DecidableEq, Repr

/-- The text that stands for the reason in a log. -/
def Panic.text : Panic → String
  | .message s => s
  | .other => "non-string panic payload"

/-- Why a step has no result: a range whose ends are the wrong way round, a counter that has no
next value, a channel of a size that cannot be had, a time after the last one that the clock can
show. -/
inductive Fault where
  | emptyRange
  | counterOverflow
  | channelSize
  | clockOverflow
deriving DecidableEq, Repr

end RemoteConsole
