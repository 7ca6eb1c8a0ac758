import RemoteConsole.Worker

/-!
# Polling

* `Poller`: how a stream fetches: by itself, or through a worker that is started by the first fetch.
* `Poll`: one fetch after a delay that is waited for.
* `Poller.move`: the next step of a poll, if it can take one.
* `Poller.select`: the poller for a mode.

A worker that cannot be started costs nothing: the stream then fetches by itself.
-/

namespace RemoteConsole

/-- How a stream fetches: by itself, through a worker that is to be started, through a running
worker, by itself because there is no worker, or no longer. -/
inductive Poller where
  | direct
  | pending
  | running (worker : Worker)
  | fallback
  | stopped

/-- A poll: not begun, waiting out its delay, waiting for the server, or for a worker. -/
inductive Poll where
  | fresh (delay : Nat)
  | delaying (wake : Nat)
  | fetching (fetch : Fetch)
  | requesting (request : Request)

namespace Poll

/-- The time that the poll waits for. -/
def wake? : Poll → Option Nat
  | .delaying wake => some wake
  | .fetching fetch => fetch.wake?
  | .fresh _ => none
  | .requesting _ => none

end Poll

namespace Poller

/-- The failure of a poll after the poller was stopped. -/
def shutDown : FetchError := .transport "offload worker already shut down"

/-- Fetches run on a worker, as far as the poller knows. -/
def isOffloaded : Poller → Bool
  | .direct => false
  | .fallback => false
  | .pending => true
  | .running _ => true
  | .stopped => true

/-- The state of a poll: the poller, the poll, and the scene. -/
abbrev State := Poller × Poll × Scene

variable (server : Server) (capacity now : Nat)

/-- The fetch begins in the stream itself. -/
def beginFetch (p : Poller) (s : Scene) : State :=
  let (fetch, s) := server.begin now s
  (p, .fetching fetch, s)

/-- The first step of a poll in the stream itself. -/
def startDirect (p : Poller) (delay : Nat) (s : Scene) : State :=
  if delay = 0 then beginFetch server now p s else (p, .delaying (now + delay), s)

/-- Starts the worker; without one, the stream connects and fetches by itself. -/
def spawn (delay : Nat) (s : Scene) : Motion Outcome State :=
  match Worker.spawn true capacity with
  | .ok w => .moved (.running w, .fresh delay, s)
  | .error (.fault _) => .crashed (.pending, .fresh delay, s)
  | .error (.error _) =>
    match server.connect s with
    | (.ok (), s) => .moved (.fallback, .fresh delay, s)
    | (.error e, s) => .ready (.error e) (.pending, .fresh delay, s)

/-- The first step of a poll. -/
def start (p : Poller) (delay : Nat) (s : Scene) : Motion Outcome State :=
  match p with
  | .direct => .moved (startDirect server now p delay s)
  | .fallback => .moved (startDirect server now p delay s)
  | .pending => spawn server capacity delay s
  | .running w => .moved (p, .requesting (w.request delay), s)
  | .stopped => .ready (.error shutDown) (p, .fresh delay, s)

/-- The next step of a poll. -/
def move : State → Motion Outcome State
  | (p, .fresh delay, s) => start server capacity now p delay s
  | (p, .delaying wake, s) => if wake ≤ now then .moved (beginFetch server now p s) else .blocked
  | (p, .fetching fetch, s) =>
    if fetch.due ≤ now then
      match fetch.reply with
      | .answer outcome => .ready outcome (p, .fetching fetch, s.finish)
      | .panic => .crashed (p, .fetching fetch, s)
      | .hang => .blocked
    else .blocked
  | (.running w, .requesting request, s) =>
    match w.moveRequest request with
    | .moved (w, request) => .moved (.running w, .requesting request, s)
    | .ready outcome (w, request) => .ready outcome (.running w, .requesting request, s)
    | .blocked => .blocked
    | .crashed (w, request) => .crashed (.running w, .requesting request, s)
  | (.direct, .requesting _, _) => .blocked
  | (.pending, .requesting _, _) => .blocked
  | (.fallback, .requesting _, _) => .blocked
  | (.stopped, .requesting _, _) => .blocked

/-- The next step of the worker, if there is one and it can take one. -/
def moveWorker (p : Poller) (s : Scene) : Option (Poller × Scene) :=
  match p with
  | .running w => (w.move server now s).map fun (w, s) => (.running w, s)
  | .direct => none
  | .pending => none
  | .fallback => none
  | .stopped => none

/-- The time that the worker waits for. -/
def workerWake? : Poller → Option Nat
  | .running w => w.wake?
  | .direct => none
  | .pending => none
  | .fallback => none
  | .stopped => none

/-- The poller gives up its worker; a poller without one goes on as before. To abort the worker and to
wait until it is gone are one step: what it still does in between it may as well have done before,
and its result is not waited for any more. -/
def stop : Poller → Poller
  | .direct => .direct
  | .pending => .stopped
  | .running _ => .stopped
  | .fallback => .stopped
  | .stopped => .stopped

end Poller

/-- The mode asks for a worker; `isThreaded` says that the program has threads for it. -/
def OffloadMode.offloads (isThreaded : Bool) : OffloadMode → Bool
  | .auto => isThreaded
  | .never => false
  | .always => true

/-- The poller for a mode. A stream that fetches by itself connects at once. -/
def Poller.select (server : Server) (mode : OffloadMode) (isThreaded : Bool) (s : Scene) :
    Except ClientError Poller × Scene :=
  if mode.offloads isThreaded then (.ok .pending, s)
  else
    match server.connect s with
    | (.ok (), s) => (.ok .direct, s)
    | (.error e, s) => (.error (.connect e), s)

end RemoteConsole
