/-!
# Broadcasting

* `Broadcast`: what was sent so far; only the newest messages are kept.
* `Broadcast.receive`: what a receiver gets next. One that has fallen behind is told once how much
  it missed, and then goes on with the oldest message that is kept.
* `Broadcast.receiveAll`: all that a receiver gets until it would have to wait.
-/

namespace RemoteConsole

/-- The messages sent so far, how many of them are kept, and whether there will be more. -/
structure Broadcast (α : Type) where
  capacity : Nat
  sent : List α
  isClosed : Bool
deriving DecidableEq, Repr

/-- What a receiver gets: a message, the number of those it missed, nothing yet, or nothing any
more. -/
inductive Received (α : Type) where
  | message (a : α)
  | lagged (missed : Nat)
  | nothing
  | ended
deriving DecidableEq, Repr

namespace Broadcast

variable {α : Type}

/-- The largest capacity that can be asked for. -/
def capacityLimit : Nat := 0x7fffffffffffffff

/-- A broadcast that keeps at least so many messages: the next power of two. -/
def ofCapacity (capacity : Nat) : Broadcast α := ⟨capacity.nextPowerOfTwo, [], false⟩

/-- Sends a message. -/
def send (b : Broadcast α) (a : α) : Broadcast α := { b with sent := b.sent ++ [a] }

/-- Sends messages in order. -/
def sendAll (b : Broadcast α) (as : List α) : Broadcast α := { b with sent := b.sent ++ as }

/-- There will be no more messages. -/
def close (b : Broadcast α) : Broadcast α := { b with isClosed := true }

/-- The number of messages that are no longer kept. -/
def dropped (b : Broadcast α) : Nat := b.sent.length - b.capacity

/-- What the receiver that has come to the message `next` gets, and how far it comes by it. -/
def receive (b : Broadcast α) (next : Nat) : Received α × Nat :=
  if next < b.dropped then (.lagged (b.dropped - next), b.dropped)
  else
    match b.sent[next]? with
    | some a => (.message a, next + 1)
    | none => (if b.isClosed then .ended else .nothing, next)

/-- All that a receiver gets before it has to wait, in a number of steps. -/
def receiveUpTo (b : Broadcast α) : Nat → Nat → List (Received α) × Nat
  | 0, next => ([], next)
  | steps + 1, next =>
    match b.receive next with
    | (.message a, next) =>
      let (rest, last) := receiveUpTo b steps next
      (.message a :: rest, last)
    | (.lagged n, next) =>
      let (rest, last) := receiveUpTo b steps next
      (.lagged n :: rest, last)
    | (.nothing, next) => ([], next)
    | (.ended, next) => ([], next)

/-- All that a receiver gets before it has to wait. -/
def receiveAll (b : Broadcast α) (next : Nat) : List (Received α) × Nat :=
  b.receiveUpTo (b.sent.length - next + 1) next

end Broadcast

end RemoteConsole
