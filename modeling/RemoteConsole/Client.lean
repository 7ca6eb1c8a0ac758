import RemoteConsole.Broadcast
import RemoteConsole.Stream
import RemoteConsole.Text.Blank

/-!
# Clients

* `Builder`: collects the parts of a client; `Builder.build` checks them.
* `Client`: a console that can be streamed any number of times.
* `Client.start`: a stream that is about to start, or why there is none.
-/

namespace RemoteConsole

/-- Where chunks come from: a server that has to be connected to, or one that is there. -/
structure Source where
  connection : Option (Nat → Option FetchError)
  call : Nat → Call

/-- The parts of a client as they were given. -/
structure Builder where
  source : Option Source
  endpoint : Option Endpoint
  session : Option SessionId
  converter : Converter
  display : Option Display
  hooks : Option Hooks
  options : Options

/-- A console that can be streamed. -/
structure Client where
  server : Server
  setting : Setting
  options : Options

namespace Builder

/-- Nothing was given. -/
def empty : Builder where
  source := none
  endpoint := none
  session := none
  converter := .standard
  display := none
  hooks := none
  options := .default

/-- The address of a server in the same program. -/
def inProcess : Endpoint := ⟨"in-process"⟩

/-- A server to connect to at an address. -/
def connector (b : Builder) (connection : Nat → Option FetchError) (call : Nat → Call)
    (endpoint : Endpoint) : Builder :=
  { b with source := some ⟨some connection, call⟩, endpoint := some endpoint }

/-- A server that is there; an address that was given before stays. -/
def service (b : Builder) (call : Nat → Call) : Builder :=
  { b with source := some ⟨none, call⟩, endpoint := some (b.endpoint.getD inProcess) }

/-- The name of something has to be there. -/
def requireName (what name : String) : Except ClientError Unit :=
  if Text.isBlankText name then .error (.validation (what ++ " must not be empty")) else .ok ()

/-- The session that was given, or a new one. -/
def chooseSession (b : Builder) (fresh : SessionId) : Except ClientError SessionId :=
  match b.session with
  | some session => (requireName "session" session.value).map fun _ => session
  | none => .ok fresh

/-- The client, if its parts fit; `fresh` is its session when none was given. -/
def build (b : Builder) (fresh : SessionId) : Except ClientError Client :=
  match b.source, b.endpoint with
  | none, _ => .error (.config "an RPC service or connector is required")
  | some _, none => .error (.config "an endpoint is required")
  | some source, some endpoint => do
    requireName "endpoint" endpoint.value
    let session ← b.chooseSession fresh
    b.options.validate
    return {
      server := ⟨endpoint, session, source.connection, source.call⟩
      setting := ⟨session, b.converter, b.display, b.hooks⟩
      options := b.options }

end Builder

namespace Client

/-- What the streams of the client are made of. -/
def plan (c : Client) : Plan := ⟨c.setting, c.server, c.options.workerCapacity.toNat⟩

/-- A stream that is about to start; the broadcast of its events cannot be of any size. -/
def start (c : Client) (isThreaded : Bool) (scene : Scene) : Except StartFailure Stream × Scene :=
  match Poller.select c.server c.options.offload isThreaded scene with
  | (.error e, scene) => (.error (.error e), scene)
  | (.ok poller, scene) =>
    if Broadcast.capacityLimit < c.options.eventCapacity.toNat then
      (.error (.fault .channelSize), scene)
    else (.ok (.ofOptions c.options poller scene), scene)

/-- What a holder learns who waits for the end of a stream that is over. -/
def closed (c : Client) (s : Stream) : Except ClientError CloseReason :=
  match s.closed? with
  | some reason => .ok reason
  | none =>
    .error (.breach
      s!"console driver ended without a close reason (session={c.server.session.value})")

end Client

end RemoteConsole
