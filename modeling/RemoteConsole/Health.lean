import RemoteConsole.Fault
import RemoteConsole.Watch

/-!
# The health of the connection

* `Health.Monitor`: a signal that becomes true when an attempt has been pending for the length of
  the debounce, and false when an attempt succeeds.
* `Monitor.markPending`, `Monitor.markHealthy`, `Monitor.disable`: what the owner reports.
* `Monitor.markPending?`: a pending attempt on a clock that ends.
* `Monitor.fire`: applies the change that is due at a time.
* `Monitor.expiry?`: when waiting for the change ends.

Times and lengths of time are whole numbers of one unit: of milliseconds in a stream, by which its
timers go. A clock has a last time that it can show, and to set a deadline after that breaks off. The
times of a stream are far from it: a debounce of 64 bits takes up the last of some hundred million
years.
-/

namespace RemoteConsole.Health

/-- The signal, and the deadline at which it becomes true. -/
structure Monitor where
  debounce : Nat
  isEnabled : Bool
  deadline : Option Nat
  unhealthy : Watch Bool
deriving DecidableEq, Repr

namespace Monitor

/-- A healthy monitor with nothing pending. -/
def ofDebounce (debounce : Nat) : Monitor := ⟨debounce, true, none, .ofValue false⟩

/-- The signal is true. -/
def isUnhealthy (m : Monitor) : Bool := m.unhealthy.value

/-- The monitor with another value of the signal. -/
def set (m : Monitor) (unhealthy : Bool) : Monitor :=
  { m with unhealthy := m.unhealthy.update unhealthy }

/-- An attempt is pending since `now`; a deadline that is set already stays. -/
def markPending (m : Monitor) (now : Nat) : Monitor :=
  if m.isEnabled then
    match m.deadline with
    | some _ => m
    | none => { m with deadline := some (now + m.debounce) }
  else { m with deadline := none }

/-- A pending attempt would set a deadline after the last time that the clock can show. -/
def outruns (m : Monitor) (last now : Nat) : Bool :=
  m.isEnabled && m.deadline.isNone && decide (last < now + m.debounce)

/-- An attempt is pending since `now`, by a clock whose last time is `last`. -/
def markPending? (m : Monitor) (last now : Nat) : Except Fault Monitor :=
  if m.outruns last now then .error .clockOverflow else .ok (m.markPending now)

/-- An attempt succeeded. -/
def markHealthy (m : Monitor) : Monitor := { m with deadline := none }.set false

/-- The signal is no longer of interest. -/
def disable (m : Monitor) : Monitor := { m with isEnabled := false }.markHealthy

/-- The deadline has come. -/
def isDue (m : Monitor) (now : Nat) : Bool :=
  match m.deadline with
  | some d => d ≤ now
  | none => false

/-- Applies a deadline that has come. The answer says whether the signal became true by it. -/
def fire (m : Monitor) (now : Nat) : Monitor × Bool :=
  if m.isDue now then
    let m' := { m with deadline := none }
    if m.isEnabled then (m'.set true, !m.isUnhealthy) else (m', false)
  else (m, false)

/-- The time, from `now` on, at which the pending change takes place. -/
def expiry? (m : Monitor) (now : Nat) : Option Nat := m.deadline.map fun d => max now d

end Monitor

end RemoteConsole.Health
