import RemoteConsole.Backoff
import RemoteConsole.ClientError

/-!
# Options of a stream

* `Options`: the retry policy, the health signal, where fetches run, and two channel sizes.
* `Options.validate`: what a client accepts.
* `Options.toJson`, `Options.decoder`: the options in JSON, where every member may be missing.
-/

namespace RemoteConsole

/-- When an attempt counts as pending: once one has failed, or from its start. -/
inductive Arming where
  | onFailure
  | onEveryPoll
deriving DecidableEq, Repr

/-- The arming of options that give none. -/
def Arming.default : Arming := .onFailure

/-- Where fetches run: on a worker if the program has threads for it, never, or always. -/
inductive OffloadMode where
  | auto
  | never
  | always
deriving DecidableEq, Repr

/-- The mode of options that give none. -/
def OffloadMode.default : OffloadMode := .auto

/-- Options of the health signal. -/
structure HealthOptions where
  debounceMs : UInt64
  arming : Arming
deriving DecidableEq, Repr

/-- Options of a stream. -/
structure Options where
  backoff : Backoff.Policy
  health : HealthOptions
  offload : OffloadMode
  workerCapacity : UInt64
  eventCapacity : UInt64
deriving DecidableEq, Repr

/-- The names of the armings. -/
def Arming.names : List (String × Arming) :=
  [("on_failure", .onFailure), ("on_every_poll", .onEveryPoll)]

/-- The name of an arming. -/
def Arming.name : Arming → String
  | .onFailure => "on_failure"
  | .onEveryPoll => "on_every_poll"

/-- The names of the modes. -/
def OffloadMode.names : List (String × OffloadMode) :=
  [("auto", .auto), ("never", .never), ("always", .always)]

/-- The name of a mode. -/
def OffloadMode.name : OffloadMode → String
  | .auto => "auto"
  | .never => "never"
  | .always => "always"

/-! ## Policies in JSON -/

namespace Backoff.Policy

/-- The policy as a JSON value. -/
def toJson (p : Policy) : Json :=
  .object [
    ("initial_step", .nat p.initialStep.toNat),
    ("max_step", .nat p.maxStep.toNat),
    ("unit_ms", .nat p.unitMs.toNat),
    ("max_retries", .nat p.maxRetries.toNat)]

/-- The shape of a policy in JSON. -/
def shape : Json.Shape Policy where
  name := "BackoffPolicy"
  blank := default
  fields := [
    .of "initial_step" (fun n p => { p with initialStep := n }) .word32 defaultInitialStep,
    .of "max_step" (fun n p => { p with maxStep := n }) .word32 defaultMaxStep,
    .of "unit_ms" (fun n p => { p with unitMs := n }) (.word64 "u64") defaultUnitMs,
    .of "max_retries" (fun n p => { p with maxRetries := n }) .word32 defaultMaxRetries]

/-- Reads a policy. -/
def decoder : Json.Decoder Policy := .record shape

end Backoff.Policy

/-! ## Health options in JSON -/

namespace HealthOptions

/-- The milliseconds of the debounce, where none are given. -/
def defaultDebounceMs : UInt64 := 1000

/-- One second after a failure. -/
def default : HealthOptions := ⟨defaultDebounceMs, .default⟩

/-- The health options as a JSON value. -/
def toJson (h : HealthOptions) : Json :=
  .object [("debounce_ms", .nat h.debounceMs.toNat), ("arming", .string h.arming.name)]

/-- The shape of health options in JSON. -/
def shape : Json.Shape HealthOptions where
  name := "HealthOptions"
  blank := default
  fields := [
    .of "debounce_ms" (fun n h => { h with debounceMs := n }) (.word64 "u64") defaultDebounceMs,
    .of "arming" (fun a h => { h with arming := a }) (.variant Arming.names) .default]

/-- Reads health options. -/
def decoder : Json.Decoder HealthOptions := .record shape

end HealthOptions

/-! ## Options -/

namespace Options

/-- The room for commands and results of a worker, where none is given. -/
def defaultWorkerCapacity : UInt64 := 4

/-- The room for events that were not yet heard, where none is given. -/
def defaultEventCapacity : UInt64 := 256

/-- The options of a client that was given none. -/
def default : Options :=
  ⟨.default, .default, .default, defaultWorkerCapacity, defaultEventCapacity⟩

instance : Inhabited Options := ⟨default⟩

/-- The options as a JSON value. -/
def toJson (o : Options) : Json :=
  .object [
    ("backoff", o.backoff.toJson),
    ("health", o.health.toJson),
    ("offload", .string o.offload.name),
    ("worker_channel_capacity", .nat o.workerCapacity.toNat),
    ("event_capacity", .nat o.eventCapacity.toNat)]

/-- The shape of options in JSON. -/
def shape : Json.Shape Options where
  name := "StreamOptions"
  blank := default
  fields := [
    .of "backoff" (fun b o => { o with backoff := b }) Backoff.Policy.decoder .default,
    .of "health" (fun h o => { o with health := h }) HealthOptions.decoder .default,
    .of "offload" (fun m o => { o with offload := m }) (.variant OffloadMode.names) .default,
    .of "worker_channel_capacity" (fun n o => { o with workerCapacity := n }) (.word64 "usize")
      defaultWorkerCapacity,
    .of "event_capacity" (fun n o => { o with eventCapacity := n }) (.word64 "usize")
      defaultEventCapacity]

/-- Reads options. -/
def decoder : Json.Decoder Options := .record shape

/-- The options with fetches running elsewhere. -/
def withOffload (o : Options) (mode : OffloadMode) : Options := { o with offload := mode }

/-- The options with another retry policy. -/
def withBackoff (o : Options) (policy : Backoff.Policy) : Options := { o with backoff := policy }

/-- The options with another arming of the health signal. -/
def withArming (o : Options) (arming : Arming) : Options :=
  { o with health := { o.health with arming := arming } }

/-- The options with a debounce of `seconds` and `nanos`, in whole milliseconds, of which 64 bits
are kept. -/
def withDebounce (o : Options) (seconds nanos : Nat) : Options :=
  { o with health := { o.health with debounceMs := .ofNat (seconds * 1000 + nanos / 1000000) } }

/-- Accepts options whose steps are in order and below 63, and whose channels hold something. -/
def validate (o : Options) : Except ClientError Unit :=
  if o.backoff.maxStep < o.backoff.initialStep then
    .error (.validation "backoff initial_step must not exceed max_step")
  else if 63 ≤ o.backoff.maxStep then
    .error (.validation "backoff max_step must be below 63")
  else if o.workerCapacity = 0 ∨ o.eventCapacity = 0 then
    .error (.validation "channel capacities must be greater than 0")
  else .ok ()

end Options

end RemoteConsole
