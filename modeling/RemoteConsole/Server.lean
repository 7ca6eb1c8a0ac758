import RemoteConsole.Delivery

/-!
# The server

* `Server`: what a connection attempt and each fetch come to, and how long a fetch takes.
* `Scene`: what has happened so far between the stream and its collaborators.
* `Server.connect`, `Server.begin`: a connection attempt, and the start of a fetch.
* `Fetch`: a fetch that has begun.
-/

namespace RemoteConsole

/-- How a fetch ends: with an outcome, never, or in a panic. -/
inductive Reply where
  | answer (outcome : Outcome)
  | hang
  | panic

/-- A fetch: the time that it takes, in milliseconds, and how it ends. -/
structure Call where
  latency : Nat
  reply : Reply

/-- The server that a stream talks to: the failure of each connection attempt, and each fetch. A
server without `connection` is there already. -/
structure Server where
  endpoint : Endpoint
  session : SessionId
  connection : Option (Nat → Option FetchError)
  call : Nat → Call

/-- What has happened so far: what left the stream, the connection attempts, the number of fetches,
those that are under way and the most that were at once, and the times at which they began. -/
structure Scene where
  outlet : Outlet
  attempts : Nat
  calls : Nat
  inFlight : Nat
  peak : Nat
  begun : List Nat
deriving Repr

/-- A fetch that has begun: when it ends, and how. -/
structure Fetch where
  due : Nat
  reply : Reply

namespace Fetch

/-- The time at which the fetch ends, if it does. -/
def wake? (f : Fetch) : Option Nat :=
  match f.reply with
  | .answer _ => some f.due
  | .panic => some f.due
  | .hang => none

end Fetch

namespace Scene

/-- Nothing has happened. -/
def empty : Scene := ⟨.empty, 0, 0, 0, 0, []⟩

/-- Adds an entry to the journal. -/
def note (s : Scene) (e : Entry) : Scene := { s with outlet := s.outlet.note e }

/-- A fetch has ended. -/
def finish (s : Scene) : Scene := { s with inFlight := s.inFlight - 1 }

end Scene

namespace Server

/-- Connects to the server, or fails to. -/
def connect (server : Server) (s : Scene) : Except FetchError Unit × Scene :=
  match server.connection with
  | none => (.ok (), s)
  | some failure =>
    let s' := { s.note (.connected server.endpoint) with attempts := s.attempts + 1 }
    match failure s.attempts with
    | none => (.ok (), s')
    | some e => (.error e, s')

/-- Begins the next fetch. -/
def begin (server : Server) (now : Nat) (s : Scene) : Fetch × Scene :=
  let call := server.call s.calls
  (⟨now + call.latency, call.reply⟩,
    { s.note (.fetched server.session) with
      calls := s.calls + 1
      inFlight := s.inFlight + 1
      peak := max s.peak (s.inFlight + 1)
      begun := s.begun ++ [now] })

end Server

end RemoteConsole
