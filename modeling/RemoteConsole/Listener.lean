import RemoteConsole.Broadcast
import RemoteConsole.Lifecycle
import RemoteConsole.Log.Record
import RemoteConsole.Session

/-!
# Listening to a stream

* `Listener`: the holder of a stream who calls for its events, one call after the other.
* `Listener.look`: a call looks at the broadcast once. It ends with a message or with the word that
  there will be none; when events were missed, it writes how many, and looks again.
-/

namespace RemoteConsole

/-- One who calls for the events of a stream: how far it has come, whether a call is under way, and
what the calls so far have answered and written. A call that answers `none` says that there will be
no more events. -/
structure Listener where
  next : Nat
  isCalling : Bool
  answers : List (Option Event)
  records : List Log.Record
deriving DecidableEq, Repr

namespace Listener

/-- The log target of calls for events. -/
def target : String := "console_stream::client"

/-- The record about events that were missed. -/
def lagRecord (session : SessionId) (skipped : Nat) : Log.Record :=
  .of .warn target "event receiver lagged; events dropped"
    [("session", session.value), ("skipped", toString skipped)]

/-- One who listens from the start of the stream and has not called yet. -/
def fresh : Listener := ⟨0, false, [], []⟩

/-- A call begins. -/
def call (l : Listener) : Listener := { l with isCalling := true }

/-- The call is given up, without an answer. -/
def giveUp (l : Listener) : Listener := { l with isCalling := false }

/-- The call ends with an answer. -/
def answer (l : Listener) (a : Option Event) : Listener :=
  { l with isCalling := false, answers := l.answers ++ [a] }

/-- The call looks at the broadcast once, unless it has to wait. -/
def look (session : SessionId) (b : Broadcast Event) (l : Listener) : Option Listener :=
  match b.receive l.next with
  | (.message e, next) => some ({ l with next := next }.answer (some e))
  | (.lagged skipped, next) =>
    some { l with next := next, records := l.records ++ [lagRecord session skipped] }
  | (.nothing, _) => none
  | (.ended, _) => some (l.answer none)

/-- The events that calls were answered with. -/
def events (l : Listener) : List Event := l.answers.filterMap id

end Listener

end RemoteConsole
