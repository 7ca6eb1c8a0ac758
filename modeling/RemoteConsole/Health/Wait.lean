import RemoteConsole.Lifecycle

/-!
# Waiting for the health signal

* `Monitor.await`: waits until the signal becomes true, for a time at most.
* `Lifecycle.awaitHealth`: the same in the life of a stream, where it is an event.
-/

namespace RemoteConsole

/-- How waiting ended: the state and the time then, and whether the signal became true. -/
structure Waited (α : Type) where
  state : α
  now : Nat
  raised : Bool
deriving Repr

namespace Health.Monitor

/-- Waits from `now` on until the signal becomes true, for `limit` at most. A deadline that comes
while the signal is true already ends nothing. -/
def await (m : Monitor) (now limit : Nat) : Waited Monitor :=
  match m.expiry? now with
  | none => ⟨m, now + limit, false⟩
  | some t =>
    if t ≤ now + limit then
      match m.fire t with
      | (m, true) => ⟨m, t, true⟩
      | (m, false) => ⟨m, now + limit, false⟩
    else ⟨m, now + limit, false⟩

end Health.Monitor

/-- Waits until the health signal becomes true, for `limit` at most. -/
def Lifecycle.awaitHealth (l : Lifecycle) (now limit : Nat) : Waited Lifecycle :=
  let w := l.health.await now limit
  let l := { l with health := w.state }
  ⟨if w.raised then l.emit (.healthChanged true) else l, w.now, w.raised⟩

end RemoteConsole
