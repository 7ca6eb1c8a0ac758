import RemoteConsole.Chunk.Wire
import RemoteConsole.Lifecycle
import RemoteConsole.Rpc.Request
import RemoteConsole.Rpc.Response
import RemoteConsole.Session
import RemoteConsole.Url.Parser

/-!
# Exchanges with a web server

* `Web`: a web server: where it listens, what it answers, and the requests that it got.
* `Connection`: a client of a server, which counts its calls.
* `Connection.call`: one call of a method: the request, the answer, and its result.
* `Connection.nextChunk`, `Connection.unload`: the calls that a stream makes.
* `Connection.open?`: a connection to an address, if it is one.
-/

namespace RemoteConsole.Rpc

/-- What a web server does with a request: it answers with a status and a body, of which bytes may
be missing at the end, or it hangs up. -/
inductive WebReply where
  | answer (status : Nat) (body : String) (missing : Nat)
  | hangUp
deriving DecidableEq, Repr

/-- A request as the web server got it. -/
structure WebRequest where
  method : String
  target : String
  contentType : String
  body : String
deriving DecidableEq, Repr

/-- A web server: its host and port, the replies to come, and the requests it got. After its last
reply it answers with an empty object. -/
structure Web where
  host : String
  port : Nat
  replies : List WebReply
  requests : List WebRequest
deriving DecidableEq, Repr

/-- Why a request came to nothing: its address is none, or one to which no request can go, it could
not be sent, or its answer could not be read. -/
inductive WebError where
  | badAddress
  | unfitAddress (address : String)
  | notSent (address : String)
  | cutShort
deriving DecidableEq, Repr

/-- The error as a line of text. -/
def WebError.text : WebError → String
  | .badAddress => "builder error"
  | .unfitAddress address => "builder error for url (" ++ address ++ ")"
  | .notSent address => "error sending request for url (" ++ address ++ ")"
  | .cutShort => "error decoding response body"

namespace Web

/-- The server listens where the address points to. -/
def listensAt (w : Web) (u : Url) : Bool :=
  match u.authority with
  | some a => u.scheme = "http" && a.host = w.host && a.port.getD 80 = w.port
  | none => false

/-- The next reply, and the server after the request. -/
def serve (w : Web) (r : WebRequest) : WebReply × Web :=
  match w.replies with
  | [] => (.answer 200 "\x7b\x7d" 0, { w with requests := w.requests ++ [r] })
  | reply :: rest => (reply, { w with replies := rest, requests := w.requests ++ [r] })

/-- An answer of the status ends the exchange. -/
def isFinal (status : Nat) : Bool := status = 101 || (200 ≤ status && status ≤ 999)

/-- Answers of the status have a body. -/
def hasBody (status : Nat) : Bool := status ≠ 101 && status ≠ 204 && status ≠ 304

/-- Sends a request to an address. The answer is the status and the body. -/
def post (w : Web) (u : Url) (body : String) : Except WebError (Nat × String) × Web :=
  if !w.listensAt u then (.error (.notSent u.text), w)
  else
    match w.serve ⟨"POST", u.target, "application/json", body⟩ with
    | (.hangUp, w) => (.error (.notSent u.text), w)
    | (.answer status body missing, w) =>
      if !isFinal status then (.error (.notSent u.text), w)
      else if !hasBody status then (.ok (status, ""), w)
      else if missing ≠ 0 then (.error .cutShort, w)
      else (.ok (status, body), w)

end Web

/-- The characters of which one in a host makes an address unfit for a request. -/
def unfitInHost : List Char := ['"', '\x60', '\x7b', '\x7d']

/-- The length of an address, in bytes, that is too long for a request. -/
def tooLong : Nat := 65535

/-- A request can go to the address. -/
def isFit (u : Url) : Bool :=
  (u.scheme = "http" || u.scheme = "https") &&
    !(u.authority.any fun a => a.host.toList.any unfitInHost.contains) &&
    u.text.utf8ByteSize < tooLong

/-- The address of a request, with the session in its query. -/
def requestUrl (endpoint : Endpoint) (session : SessionId) : Except WebError Url :=
  match Url.parse? endpoint.value with
  | none => .error .badAddress
  | some u =>
    if (u.authority.map (·.host)).getD "" = "" then .error (.unfitAddress u.text)
    else
      let u := u.withoutUser.withParameter Request.sessionParameter session.value
      if isFit u then .ok u else .error (.unfitAddress u.text)

/-- A client of a server, and the number of its next call. -/
structure Connection where
  endpoint : Endpoint
  nextId : UInt64
deriving DecidableEq, Repr

namespace Connection

/-- A client that has made no call. -/
def ofEndpoint (endpoint : Endpoint) : Connection := ⟨endpoint, 1⟩

/-- A connection to an address. -/
def open? (endpoint : Endpoint) : Except FetchError Connection :=
  match Url.parse? endpoint.value with
  | some _ => .ok (ofEndpoint endpoint)
  | none => .error (.transport ("invalid endpoint URL: " ++ endpoint.value))

/-- The failure of a call that came to nothing. -/
def failure (method : String) : WebError → FetchError
  | .cutShort => .transport ("failed to read " ++ method ++ " response: " ++ WebError.cutShort.text)
  | e => .transport (method ++ " request failed: " ++ e.text)

/-- Calls a method. -/
def call (c : Connection) (session : SessionId) (method : String) (params : List Json) (w : Web) :
    Except FetchError Json × Connection × Web :=
  let body := (Request.mk c.nextId method params).body
  let c := { c with nextId := c.nextId + 1 }
  match requestUrl c.endpoint session with
  | .error e => (.error (failure method e), c, w)
  | .ok u =>
    match w.post u body with
    | (.error e, w) => (.error (failure method e), c, w)
    | (.ok (status, body), w) => (parseResponse status body, c, w)

/-- Fetches the next chunk. -/
def nextChunk (c : Connection) (session : SessionId) (w : Web) : Outcome × Connection × Web :=
  let (result, rest) := c.call session Request.nextChunk [] w
  (result.map Chunk.ofJson, rest)

/-- Tells the server that the program is unloaded; nobody waits for the result. -/
def unload (c : Connection) (session : SessionId) (w : Web) : Connection × Web :=
  (c.call session Request.appUnload [.string session.value] w).2

end Connection

end RemoteConsole.Rpc
