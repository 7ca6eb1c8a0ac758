import RemoteConsole.Json.Decoder

/-!
# Failures of a fetch

* `FetchError`: a fetch that failed, by its code and its message.
* `FetchError.isTerminal`: the session is gone, so another fetch would be in vain.
* `FetchError.decoder`: reads a failure from JSON, where the code has to be there.
-/

namespace RemoteConsole

/-- A fetch that failed. -/
structure FetchError where
  code : Int
  message : Option String
deriving DecidableEq, Repr

namespace FetchError

/-- The code of a failure below the server: refused, timed out, broken off. -/
def transportCode : Int := 0

/-- The code of an answer that could not be read. -/
def parseCode : Int := 590

/-- The codes that say that the session is no longer valid. -/
def terminalCodes : List Int := [401, 403, 410, 501]

/-- A failure below the server. -/
def transport (message : String) : FetchError := ⟨transportCode, some message⟩

/-- An answer that could not be read. -/
def unreadable (message : String) : FetchError := ⟨parseCode, some message⟩

/-- The session is no longer valid. -/
def isTerminal (e : FetchError) : Bool := terminalCodes.contains e.code

/-- The failure has no code of the server. -/
def isTransport (e : FetchError) : Bool := e.code == transportCode

/-- The failure as a line of text. -/
def text (e : FetchError) : String :=
  s!"stream error (code {e.code}): " ++ e.message.getD "no message"

/-- The failure as a JSON value. -/
def toJson (e : FetchError) : Json :=
  .object [("code", .int e.code), ("message", Json.stringOrNull e.message)]

/-- The shape of a failure in JSON. -/
def shape : Json.Shape FetchError where
  name := "StreamError"
  blank := ⟨transportCode, none⟩
  fields := [
    .required "code" (fun code e => { e with code := code })
      (.integer "i32" (-0x80000000) 0x7fffffff),
    .of "message" (fun message e => { e with message := message }) .optionalString none]

/-- Reads a failure. -/
def decoder : Json.Decoder FetchError := .record shape

end FetchError

end RemoteConsole
