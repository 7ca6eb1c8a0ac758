import RemoteConsole.Stream

/-!
# Turns and time

One thread runs the driver and the worker of a stream in turns; a turn lasts until the task has to
wait. Time passes only when both wait.

* `Schedule.step`: the next step within a turn, or the end of the turn.
* `Stream.wake?`: the time at which something happens again.
* `Schedule.settle`, `Schedule.run`: all the turns at one time, and the whole run.

The loops take a bound on the number of their steps.
-/

namespace RemoteConsole

/-- What takes turns. -/
inductive Task where
  | driver
  | worker
deriving DecidableEq, Repr

namespace Task

/-- The other task. -/
def other : Task → Task
  | .driver => .worker
  | .worker => .driver

end Task

namespace Stream

/-- The next step of a task, if it can take one. -/
def move (plan : Plan) (s : Stream) : Task → Option Stream
  | .driver => s.moveDriver plan
  | .worker => s.moveWorker plan

/-- The task can take a step. -/
def canMove (plan : Plan) (s : Stream) (t : Task) : Bool := (s.move plan t).isSome

/-- The time at which something happens again. -/
def wake? (s : Stream) : Option Nat :=
  match s.driverWake?, s.poller.workerWake? with
  | some a, some b => some (min a b)
  | some a, none => some a
  | none, b => b

/-- The stream at a later time. -/
def atTime (s : Stream) (time : Nat) : Stream := { s with now := max s.now time, turns := 0 }

end Stream

/-- A stream, and the tasks that wait for their turn. -/
structure Schedule where
  stream : Stream
  queue : List Task

namespace Schedule

/-- A task that can move joins the queue at its end, unless it is in it. -/
def enqueue (plan : Plan) (c : Schedule) (t : Task) : Schedule :=
  if c.stream.canMove plan t ∧ t ∉ c.queue then { c with queue := c.queue ++ [t] } else c

/-- The tasks that the time has woken; the driver has been waiting for longer. -/
def ofStream (plan : Plan) (s : Stream) : Schedule :=
  (enqueue plan ⟨s, []⟩ .driver).enqueue plan .worker

/-- The next step of the first task in the queue, or the end of its turn. -/
def step (plan : Plan) (c : Schedule) : Option Schedule :=
  match c.queue with
  | [] => none
  | t :: rest =>
    match c.stream.move plan t with
    | some s => some ⟨s, c.queue⟩
    | none =>
      let s := { c.stream with turns := c.stream.turns + 1 }
      some (enqueue plan ⟨s, rest⟩ t.other)

/-- All the turns at this time. -/
def settle (plan : Plan) : Nat → Schedule → Schedule
  | 0, c => c
  | steps + 1, c =>
    match c.step plan with
    | none => c
    | some c => settle plan steps c

end Schedule

end RemoteConsole
