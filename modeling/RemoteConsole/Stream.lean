import RemoteConsole.Poller

/-!
# A running stream

* `Stream`: the state of a stream that runs, between the steps of its driver and of its worker.
* `Stream.moveDriver`: the next step of the driver, which carries out the commands of the lifecycle.
  While it waits for a fetch, a wish to close goes first, then the outcome, then the health signal.
* `Stream.moveWorker`: the next step of the worker.
* `Publication`: an event as it was published: when, and in which round of turns.
-/

namespace RemoteConsole

/-- All that a stream is made of when it starts. -/
structure Plan where
  setting : Setting
  server : Server
  workerCapacity : Nat

/-- What the driver does: it is about to start, carries out a command, waits for a poll, gives up
its worker, has ended, or has broken off. -/
inductive Stage where
  | starting
  | executing (command : Command)
  | waiting (poll : Poll)
  | leaving (reason : CloseReason)
  | finished (reason : CloseReason)
  | crashed

/-- An event, the time at which it was published, and the round of turns at that time. -/
structure Publication where
  event : Event
  time : Nat
  round : Nat
deriving DecidableEq, Repr

/-- A stream that runs. `turns` counts the turns of driver and worker at this time, and `consumed`
lists the outcomes that the driver took, with their times. -/
structure Stream where
  now : Nat
  turns : Nat
  lifecycle : Lifecycle
  isClosed : Bool
  scene : Scene
  poller : Poller
  stage : Stage
  closeWanted : Bool
  published : List Publication
  consumed : List (Nat × Outcome)

namespace Stream

/-- After so many turns, those who wait for events have theirs. -/
def turnsPerRound : Nat := 61

/-- A stream that is about to start. -/
def ofOptions (o : Options) (poller : Poller) (scene : Scene) : Stream where
  now := 0
  turns := 0
  lifecycle := .ofOptions o
  isClosed := false
  scene := scene
  poller := poller
  stage := .starting
  closeWanted := false
  published := []
  consumed := []

/-- Publishes the events of the lifecycle. -/
def publish (s : Stream) : Stream :=
  { s with
    lifecycle := s.lifecycle.drained
    published := s.published ++
      s.lifecycle.events.map fun e => ⟨e, s.now, s.turns / turnsPerRound⟩ }

/-- The lifecycle has moved on, with a command for the driver. -/
def proceed (s : Stream) (next : Lifecycle × Command) : Stream :=
  { s with lifecycle := next.1, stage := .executing next.2 }.publish

/-- The driver breaks off. -/
def crash (s : Stream) : Stream := { s with stage := .crashed }

/-- The driver takes the outcome of a poll. -/
def consume (s : Stream) (outcome : Outcome) : Stream :=
  let s := { s with consumed := s.consumed ++ [(s.now, outcome)] }
  match s.lifecycle.receive outcome s.now with
  | (l, .ok command) => s.proceed (l, command)
  | (l, .error _) => { s with lifecycle := l }.crash

/-- Applies a health deadline that has come. -/
def fireHealth (s : Stream) : Stream :=
  let (l, raised) := s.lifecycle.fireHealth s.now
  let s := { s with lifecycle := l }
  if raised then s.publish else s

/-- Delivers what a fetch brought. -/
def deliver (plan : Plan) (s : Stream) (chunk : Option Chunk) : Stream :=
  let (d, ending) :=
    Delivery.process plan.setting chunk ⟨s.isClosed, s.lifecycle.health, s.scene.outlet⟩
  let l := { s.lifecycle with health := d.health }
  let s := { s with
    lifecycle := l, isClosed := d.isClosed, scene := { s.scene with outlet := d.outlet } }
  match ending with
  | .flow flow => s.proceed (l.delivered flow s.now)
  | .panicked => s.crash

/-- The state of the stream with a poll at another point. -/
def withPoll (s : Stream) (p : Poller.State) : Stream :=
  { s with poller := p.1, stage := .waiting p.2.1, scene := p.2.2 }

/-- The step of the driver while it waits for a poll. -/
def await (plan : Plan) (s : Stream) (poll : Poll) : Option Stream :=
  if s.closeWanted then some (s.proceed s.lifecycle.requestClose)
  else
    match Poller.move plan.server plan.workerCapacity s.now (s.poller, poll, s.scene) with
    | .moved p => some (s.withPoll p)
    | .ready outcome p => some ((s.withPoll p).consume outcome)
    | .crashed p => some (s.withPoll p).crash
    | .blocked => if s.lifecycle.health.isDue s.now then some s.fireHealth else none

/-- Carries out a command. -/
def execute (plan : Plan) (s : Stream) : Command → Stream
  | .fetch delay => { s with stage := .waiting (.fresh delay) }
  | .deliver chunk => s.deliver plan chunk
  | .close reason => { s with stage := .leaving reason }
  | .wait => s.proceed s.lifecycle.requestClose

/-- The next step of the driver, if it can take one. -/
def moveDriver (plan : Plan) (s : Stream) : Option Stream :=
  match s.stage with
  | .starting => some (s.proceed (s.lifecycle.start s.now))
  | .executing command => some (s.execute plan command)
  | .waiting poll => s.await plan poll
  | .leaving reason => some { s with poller := s.poller.stop, stage := .finished reason }
  | .finished _ => none
  | .crashed => none

/-- The next step of the worker, if it can take one. -/
def moveWorker (plan : Plan) (s : Stream) : Option Stream :=
  (s.poller.moveWorker plan.server s.now s.scene).map fun (poller, scene) =>
    { s with poller := poller, scene := scene }

/-- The driver has ended or broken off. -/
def isOver (s : Stream) : Bool :=
  match s.stage with
  | .finished _ => true
  | .crashed => true
  | .starting => false
  | .executing _ => false
  | .waiting _ => false
  | .leaving _ => false

/-- The time that the driver waits for. -/
def driverWake? (s : Stream) : Option Nat :=
  match s.stage with
  | .waiting poll =>
    match poll.wake?, s.lifecycle.health.expiry? s.now with
    | some a, some b => some (min a b)
    | some a, none => some a
    | none, b => b
  | .starting => none
  | .executing _ => none
  | .leaving _ => none
  | .finished _ => none
  | .crashed => none

/-- What the driver reports at its end. -/
def closed? (s : Stream) : Option CloseReason :=
  match s.stage with
  | .finished reason => some reason
  | .starting => none
  | .executing _ => none
  | .waiting _ => none
  | .leaving _ => none
  | .crashed => none

end Stream

end RemoteConsole
