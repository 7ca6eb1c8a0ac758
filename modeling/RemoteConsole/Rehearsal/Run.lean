import RemoteConsole.Broadcast
import RemoteConsole.Schedule

/-!
# Rehearsing a stream

* `Action`: what the holder of a stream does with it.
* `Rehearsal.run`: runs a stream from its start to its end, with actions at given times.
* `Rehearsal.sightings`: the events as a receiver sees them that is served after each round of
  turns.
-/

namespace RemoteConsole.Rehearsal

/-- What the holder of a stream does: closes or drops it, or its handle. -/
inductive Action where
  | close
  | drop
  | closeHandle
  | dropHandle
deriving DecidableEq, Repr

/-- A run: the stream, what is still held of it, and the actions to come, by their times. -/
structure Run where
  stream : Stream
  hasStream : Bool
  hasHandle : Bool
  actions : List (Nat × Action)

namespace Run

/-- An action is carried out; a stream of which nothing is held is to be closed. -/
def act (r : Run) (a : Action) : Run :=
  let want (r : Run) (wanted : Bool) : Run :=
    if wanted then { r with stream := { r.stream with closeWanted := true } } else r
  match a with
  | .close => want r r.hasStream
  | .closeHandle => want r r.hasHandle
  | .drop => want { r with hasStream := false } (!r.hasHandle)
  | .dropHandle => want { r with hasHandle := false } (!r.hasStream)

/-- Carries out the actions that are due. -/
def actAll : List (Nat × Action) → Run → Run
  | [], r => { r with actions := [] }
  | (time, a) :: rest, r =>
    if time ≤ r.stream.now then actAll rest (r.act a)
    else { r with actions := (time, a) :: rest }

/-- All the turns at this time, after the actions that are due. -/
def settle (plan : Plan) (steps : Nat) (r : Run) : Run :=
  let c := Schedule.ofStream plan r.stream
  let r := actAll r.actions r
  let c := ({ c with stream := r.stream }).enqueue plan .driver
  { r with stream := (c.settle plan steps).stream }

/-- The time at which something happens again, an action included. -/
def wake? (r : Run) : Option Nat :=
  match r.stream.wake?, r.actions with
  | some t, (a, _) :: _ => some (min t a)
  | some t, [] => some t
  | none, (a, _) :: _ => some a
  | none, [] => none

/-- The run at a later time. -/
def atTime (r : Run) (time : Nat) : Run := { r with stream := r.stream.atTime time }

end Run

/-- How a run ended: the stream is over, or there was nothing left to happen before the limit. -/
inductive End where
  | over
  | timeout
deriving DecidableEq, Repr

/-- Goes from time to time until the stream is over or the limit is reached. -/
def runUntil (plan : Plan) (limit settleSteps : Nat) : Nat → Run → Run × End
  | 0, r => (r, .timeout)
  | steps + 1, r =>
    let r := r.settle plan settleSteps
    if r.stream.isOver then (r, .over)
    else
      match r.wake? with
      | none => (r.atTime limit, .timeout)
      | some time =>
        if time < limit then runUntil plan limit settleSteps steps (r.atTime time)
        else (r.atTime limit, .timeout)

/-- The time at which a rehearsal is given up. -/
def patience : Nat := 1000000000

/-- A number of steps that no rehearsal exceeds. -/
def manySteps : Nat := 1000000000

/-- Runs a stream from its start to its end. -/
def run (plan : Plan) (s : Stream) (hasHandle : Bool) (actions : List (Nat × Action)) :
    Run × End :=
  runUntil plan patience manySteps manySteps ⟨s, true, hasHandle, actions⟩

/-! ## Receiving -/

/-- The publications in groups of one time and one round. -/
def rounds (ps : List Publication) : List (List Publication) :=
  ps.splitBy fun a b => a.time = b.time && a.round = b.round

/-- What a receiver gets that is served after each round, with the times. -/
def receiveRounds : Broadcast Event → Nat → List (List Publication) → List (Nat × Received Event)
  | _, _, [] => []
  | b, next, [] :: rest => receiveRounds b next rest
  | b, next, (p :: ps) :: rest =>
    let b := b.sendAll ((p :: ps).map (·.event))
    let (received, next) := b.receiveAll next
    received.map (fun r => (p.time, r)) ++ receiveRounds b next rest

/-- The events as a receiver sees them. -/
def sightings (capacity : Nat) (ps : List Publication) : List (Nat × Received Event) :=
  receiveRounds (.ofCapacity capacity) 0 (rounds ps)

end RemoteConsole.Rehearsal
