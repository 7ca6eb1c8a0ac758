import RemoteConsole.Poller

/-!
# Polling by hand

* `Caller`: someone who polls without a stream; a worker runs while the caller waits.
* `Caller.poll`: waits for a poll, up to a limit.
* `Caller.sleep`: waits for a length of time.

Of what happens at the same time, the caller's own part goes first: the poll, then its limit, then
the worker.
-/

namespace RemoteConsole.Rehearsal

/-- A caller: the time, its poller, and what has happened. -/
structure Caller where
  now : Nat
  poller : Poller
  scene : Scene

/-- How waiting for a poll ends: with an outcome, at the limit, in a panic, or never. -/
inductive Answer where
  | outcome (outcome : Outcome)
  | timeout
  | panicked
  | never

namespace Caller

variable (server : Server) (capacity : Nat)

/-- The earlier of two times, either of which may never come. -/
def earlier : Option Nat → Option Nat → Option Nat
  | some a, some b => some (min a b)
  | some a, none => some a
  | none, b => b

/-- The limit has come. -/
def isPast (limit : Option Nat) (now : Nat) : Bool :=
  match limit with
  | some t => t ≤ now
  | none => false

/-- Waits for a poll. -/
def wait (limit : Option Nat) : Nat → Caller → Poll → Caller × Answer
  | 0, c, _ => (c, .never)
  | steps + 1, c, poll =>
    match Poller.move server capacity c.now (c.poller, poll, c.scene) with
    | .moved (p, poll, s) => wait limit steps ⟨c.now, p, s⟩ poll
    | .ready o (p, _, s) => (⟨c.now, p, s⟩, .outcome o)
    | .crashed (p, _, s) => (⟨c.now, p, s⟩, .panicked)
    | .blocked =>
      if isPast limit c.now then (c, .timeout)
      else
        match c.poller.moveWorker server c.now c.scene with
        | some (p, s) => wait limit steps ⟨c.now, p, s⟩ poll
        | none =>
          match earlier (earlier poll.wake? c.poller.workerWake?) limit with
          | some t => wait limit steps { c with now := max c.now t } poll
          | none => (c, .never)

/-- A number of steps that no poll exceeds. -/
def manySteps : Nat := 1000000000

/-- Polls after a delay, and waits for at most `limit`. -/
def poll (c : Caller) (delay : Nat) (limit : Option Nat) : Caller × Answer :=
  c.wait server capacity (limit.map (c.now + ·)) manySteps (.fresh delay)

/-- Waits until a time, while the worker goes on. -/
def sleepUntil (target : Nat) : Nat → Caller → Caller
  | 0, c => c
  | steps + 1, c =>
    if target ≤ c.now then c
    else
      match c.poller.moveWorker server c.now c.scene with
      | some (p, s) => sleepUntil target steps ⟨c.now, p, s⟩
      | none =>
        match c.poller.workerWake? with
        | some t => sleepUntil target steps { c with now := max c.now (min t target) }
        | none => { c with now := target }

/-- Waits for a length of time. -/
def sleep (c : Caller) (length : Nat) : Caller := c.sleepUntil server (c.now + length) manySteps

/-- Gives up the worker. -/
def stop (c : Caller) : Caller := { c with poller := c.poller.stop }

end Caller

end RemoteConsole.Rehearsal
