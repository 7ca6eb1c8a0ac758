import RemoteConsole.Fault

/-!
# Waiting after a failure

* `Backoff.Policy`: the delay after a failure is `2 ^ step` units, where `step` grows by one with
  each failure from `initialStep` up to `maxStep`; after `maxRetries` retries in a row the stream
  gives up.
* `Backoff.Policy.nextDelay`: the delay at a step, and the step after it.
* `Backoff.Controller`: the step that a stream has reached.

Delays are in milliseconds and end at the largest number of 64 bits.
-/

namespace RemoteConsole.Backoff

/-- The rule for the delays of a stream. -/
structure Policy where
  initialStep : UInt32
  maxStep : UInt32
  unitMs : UInt64
  maxRetries : UInt32
deriving DecidableEq, Repr

/-- The longest delay. -/
def longestDelay : Nat := 0xffffffffffffffff

namespace Policy

/-- The step of the first delay, where none is given. -/
def defaultInitialStep : UInt32 := 8

/-- The step of the longest delay, where none is given. -/
def defaultMaxStep : UInt32 := 12

/-- The milliseconds of a unit, where none are given. -/
def defaultUnitMs : UInt64 := 1

/-- The number of retries, where none is given. -/
def defaultMaxRetries : UInt32 := defaultMaxStep

/-- From 256 to 4096 milliseconds, with twelve retries. -/
def default : Policy := ⟨defaultInitialStep, defaultMaxStep, defaultUnitMs, defaultMaxRetries⟩

instance : Inhabited Policy := ⟨default⟩

/-- The steps from `initial` to `max`, or `initial` alone when `max` is below it. -/
def ofSteps (initial max : UInt32) : Policy :=
  { default with initialStep := initial, maxStep := if max < initial then initial else max }

/-- The unit is `unitMs`, at least one millisecond. -/
def withUnit (p : Policy) (unitMs : UInt64) : Policy :=
  { p with unitMs := if unitMs = 0 then 1 else unitMs }

/-- The stream gives up after `maxRetries` retries in a row. -/
def withMaxRetries (p : Policy) (maxRetries : UInt32) : Policy :=
  { p with maxRetries := maxRetries }

/-- The failure, counted from one, is one more than the policy retries. -/
def exhausted (p : Policy) (failures : UInt32) : Bool := p.maxRetries < failures

/-- The step, moved into the range of the policy. -/
def clamp (p : Policy) (step : UInt32) : UInt32 :=
  if step < p.initialStep then p.initialStep else if p.maxStep < step then p.maxStep else step

/-- The units of a step: a power of two, as far as 64 bits hold it. -/
def units (step : UInt32) : Nat := if step < 64 then Nat.pow 2 step.toNat else longestDelay

/-- The delay at a step that is in the range of the policy. -/
def delay (p : Policy) (step : UInt32) : Nat := min (units step * p.unitMs.toNat) longestDelay

/-- The delay at a step, and the step for the failure after it. There is none for a range whose
ends are the wrong way round, nor after the last step of all. -/
def nextDelay (p : Policy) (step : UInt32) : Except Fault (Nat × UInt32) :=
  if p.maxStep < p.initialStep then .error .emptyRange
  else
    let s := p.clamp step
    if s = 0xffffffff then .error .counterOverflow
    else .ok (p.delay s, if p.maxStep < s + 1 then p.maxStep else s + 1)

end Policy

/-- A policy and the step that has been reached under it. -/
structure Controller where
  policy : Policy
  step : UInt32
deriving DecidableEq, Repr

namespace Controller

/-- At the first step of the policy. -/
def ofPolicy (p : Policy) : Controller := ⟨p, p.initialStep⟩

/-- The delay at the step that has been reached; the controller moves on to the next. -/
def nextDelay (c : Controller) : Except Fault (Nat × Controller) :=
  (c.policy.nextDelay c.step).map fun (d, next) => (d, { c with step := next })

/-- Back at the first step. -/
def reset (c : Controller) : Controller := { c with step := c.policy.initialStep }

end Controller

end RemoteConsole.Backoff
