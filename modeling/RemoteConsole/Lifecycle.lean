import RemoteConsole.Chunk
import RemoteConsole.Health
import RemoteConsole.Options

/-!
# The lifecycle of a stream

* `Lifecycle`: all that is decided between two fetches. It is told what a fetch brought and what
  became of a delivery, and answers with the next `Command`.
* `Lifecycle.start`, `receive`, `delivered`, `requestClose`: the calls that move it on.
* `Lifecycle.fireHealth`: the health signal became true.
* `Event`: what an observer of the stream is told.

Every operation that can break off returns the state it had come to.
-/

namespace RemoteConsole

/-- Where a stream is: not started, waiting for a fetch, handing on what it brought, looking at a
failure, closed. -/
inductive Phase where
  | idle
  | polling
  | delivering
  | backoff
  | closed
deriving DecidableEq, Repr

/-- Why a stream closed. -/
inductive CloseReason where
  | serverClosed
  | shutdown (clean : Bool)
  | sessionInvalid (error : FetchError)
  | retriesExhausted (error : FetchError)
  | requested
deriving DecidableEq, Repr

/-- What an observer is told. -/
inductive Event where
  | phaseChanged (source target : Phase)
  | retryScheduled (delay : Nat) (step : UInt32) (code : Int)
  | healthChanged (unhealthy : Bool)
  | closed (reason : CloseReason)
deriving DecidableEq, Repr

/-- What has to be done next: fetch after a delay, deliver a chunk or the end of the stream, tear
down, or nothing new. -/
inductive Command where
  | fetch (delay : Nat)
  | deliver (chunk : Option Chunk)
  | close (reason : CloseReason)
  | wait
deriving Repr

/-- What a fetch brings: a chunk, none when the console was closed, or a failure. -/
abbrev Outcome := Except FetchError (Option Chunk)

/-- Whether a stream goes on after a delivery. -/
inductive Flow where
  | continue
  | stop
deriving DecidableEq, Repr

/-- The state of a stream between fetches. -/
structure Lifecycle where
  phase : Phase
  backoff : Backoff.Controller
  failures : UInt32
  health : Health.Monitor
  arming : Arming
  closeReason : Option CloseReason
  events : List Event
  watched : Watch Phase
deriving Repr

namespace Lifecycle

/-- A stream that has not started. -/
def ofOptions (o : Options) : Lifecycle where
  phase := .idle
  backoff := .ofPolicy o.backoff
  failures := 0
  health := .ofDebounce o.health.debounceMs.toNat
  arming := o.health.arming
  closeReason := none
  events := []
  watched := .ofValue .idle

/-- Adds an event, after those that were not handed out yet. -/
def emit (l : Lifecycle) (e : Event) : Lifecycle := { l with events := l.events ++ [e] }

/-- The lifecycle without its events. -/
def drained (l : Lifecycle) : Lifecycle := { l with events := [] }

/-- The largest number of 32 bits. -/
def lastFailure : UInt32 := 0xffffffff

/-- Moves to a phase, which is an event unless the stream is in it. -/
def enter (l : Lifecycle) (next : Phase) : Lifecycle :=
  if l.phase = next then l
  else { l with phase := next, watched := l.watched.send next }.emit (.phaseChanged l.phase next)

/-- Changes the health monitor; the signal going down is an event. -/
def calm (l : Lifecycle) (change : Health.Monitor → Health.Monitor) : Lifecycle :=
  let l' := { l with health := change l.health }
  if l.health.isUnhealthy then l'.emit (.healthChanged false) else l'

/-- An attempt is pending since `now`. -/
def markPending (l : Lifecycle) (now : Nat) : Lifecycle :=
  { l with health := l.health.markPending now }

/-- A fetch begins. -/
def enterPolling (l : Lifecycle) (now : Nat) : Lifecycle :=
  let l := l.enter .polling
  if l.arming = .onEveryPoll then l.markPending now else l

/-- The command for a call that changes nothing. -/
def currentCommand (l : Lifecycle) : Command :=
  match l.closeReason with
  | some reason => if l.phase = .closed then .close reason else .wait
  | none => .wait

/-- A step of the lifecycle: the state it came to, and the command unless it broke off. -/
abbrev Step := Lifecycle × Except Fault Command

/-- The first fetch. -/
def start (l : Lifecycle) (now : Nat) : Lifecycle × Command :=
  if l.phase = .idle then (l.enterPolling now, .fetch 0) else (l, l.currentCommand)

/-- The reason to close that a chunk gives. -/
def reasonOf : Option Chunk → Option CloseReason
  | none => some .serverClosed
  | some c => c.notice?.map .shutdown

/-- A fetch brought a chunk. -/
def receiveChunk (l : Lifecycle) (chunk : Option Chunk) : Lifecycle × Command :=
  let l := l.enter .delivering
  let l := { l with backoff := l.backoff.reset, failures := 0 }
  let l := l.calm .markHealthy
  ({ l with closeReason := (reasonOf chunk).or l.closeReason }, .deliver chunk)

/-- The stream ends for a reason, after the end was delivered. -/
def giveUp (l : Lifecycle) (reason : CloseReason) : Lifecycle × Command :=
  ({ l with closeReason := some reason }, .deliver none)

/-- Another fetch after the delay of the backoff. -/
def retry (l : Lifecycle) (e : FetchError) (now : Nat) : Step :=
  let l := l.markPending now
  let step := l.backoff.step
  match l.backoff.nextDelay with
  | .error fault => (l, .error fault)
  | .ok (delay, backoff) =>
    let l := { l with backoff := backoff }
    ((l.emit (.retryScheduled delay step e.code)).enterPolling now, .ok (.fetch delay))

/-- A fetch failed. -/
def receiveError (l : Lifecycle) (e : FetchError) (now : Nat) : Step :=
  let l := l.enter .backoff
  if e.isTerminal then (l.giveUp (.sessionInvalid e)).map id .ok
  else if l.failures = lastFailure then (l, .error .counterOverflow)
  else
    let l := { l with failures := l.failures + 1 }
    if l.backoff.policy.exhausted l.failures then (l.giveUp (.retriesExhausted e)).map id .ok
    else l.retry e now

/-- The outcome of the fetch that is waited for; any other outcome is ignored. -/
def receive (l : Lifecycle) (outcome : Outcome) (now : Nat) : Step :=
  if l.phase = .polling then
    match outcome with
    | .ok chunk => (l.receiveChunk chunk).map id .ok
    | .error e => l.receiveError e now
  else (l, .ok l.currentCommand)

/-- Closes the stream. -/
def close (l : Lifecycle) : Lifecycle × Command :=
  let l := l.calm .disable
  let reason := l.closeReason.getD .serverClosed
  let l := { l with closeReason := some reason }
  ((l.enter .closed).emit (.closed reason), .close reason)

/-- What became of the last delivery. -/
def delivered (l : Lifecycle) (flow : Flow) (now : Nat) : Lifecycle × Command :=
  match l.phase, flow with
  | .delivering, .continue => (l.enterPolling now, .fetch 0)
  | .delivering, .stop => l.close
  | .backoff, .stop => l.close
  | .polling, .stop => l.close
  | _, _ => (l, l.currentCommand)

/-- The caller wants the stream closed: the end has to be delivered, and a reason that was there
before stays. -/
def requestClose (l : Lifecycle) : Lifecycle × Command :=
  if l.phase = .closed then (l, l.currentCommand)
  else ({ l with closeReason := some (l.closeReason.getD .requested) }, .deliver none)

/-- Applies the health deadline if it has come; the signal going up is an event. -/
def fireHealth (l : Lifecycle) (now : Nat) : Lifecycle × Bool :=
  let (health, raised) := l.health.fire now
  let l := { l with health := health }
  if raised then (l.emit (.healthChanged true), true) else (l, false)

end Lifecycle

end RemoteConsole
