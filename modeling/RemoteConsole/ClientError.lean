import RemoteConsole.Failure
import RemoteConsole.Fault

/-!
# Errors of the client

`ClientError` is what building, starting and closing a client can fail with, and
`ClientError.text` the line that says so.
-/

namespace RemoteConsole

/-- What a client can fail with. -/
inductive ClientError where
  | config (message : String)
  | validation (message : String)
  | connect (cause : FetchError)
  | workerUnavailable (message : String)
  | breach (message : String)
deriving DecidableEq, Repr

/-- The error as a line of text. -/
def ClientError.text : ClientError → String
  | .config m => "config error: " ++ m
  | .validation m => "validation error: " ++ m
  | .connect e => "connect failed: " ++ e.text
  | .workerUnavailable m => "worker unavailable: " ++ m
  | .breach m => "protocol error: " ++ m

/-- Why something could not be started: an error, or a fault of the program. -/
inductive StartFailure where
  | error (error : ClientError)
  | fault (fault : Fault)
deriving DecidableEq, Repr

/-- A converter could not convert a chunk. -/
structure ConvertError where
  message : String
deriving DecidableEq, Repr

/-- The error as a line of text. -/
def ConvertError.text (e : ConvertError) : String := "chunk conversion failed: " ++ e.message

end RemoteConsole
