import RemoteConsole.ClientError
import RemoteConsole.Environment
import RemoteConsole.Session
import RemoteConsole.Text.Blank

/-!
# Where the server is

`Rpc.Config` is the address of the server, the session to poll, and the time a request may take.
-/

namespace RemoteConsole.Rpc

/-- The address of the server and how to talk to it; the timeout is in milliseconds. -/
structure Config where
  endpoint : Endpoint
  session : Option SessionId
  timeoutMs : Nat
deriving DecidableEq, Repr

namespace Config

/-- The server at the address, without a session. -/
def ofEndpoint (endpoint : Endpoint) : Config := ⟨endpoint, none, 120000⟩

/-- The variable for the address. -/
def endpointVariable : String := "CONSOLE_STREAM_ENDPOINT"

/-- The variable for the session. -/
def sessionVariable : String := "CONSOLE_STREAM_SESSION"

/-- The text without blanks around it, if anything is left. -/
def trimmed? (s : String) : Option String :=
  if Text.isBlankText s then none else some (Text.trim s)

/-- The configuration that the variables of the environment give. -/
def ofEnvironment (env : Environment) : Except ClientError Config :=
  match (env.get? endpointVariable).bind trimmed? with
  | none => .error (.config s!"missing {endpointVariable} for the JSON-RPC transport")
  | some endpoint =>
    .ok { ofEndpoint ⟨endpoint⟩ with
      session := ((env.get? sessionVariable).bind trimmed?).map SessionId.mk }

/-- The configuration with another session. -/
def withSession (c : Config) (session : SessionId) : Config := { c with session := some session }

/-- The configuration with another timeout. -/
def withTimeout (c : Config) (timeoutMs : Nat) : Config := { c with timeoutMs := timeoutMs }

end Config

end RemoteConsole.Rpc
