import RemoteConsole.Json.Printer

/-!
# Requests to the server

`Rpc.Request` is the body of one call; the session travels in the query of the address.
-/

namespace RemoteConsole.Rpc

/-- One call of a method of the server. -/
structure Request where
  id : UInt64
  method : String
  params : List Json
deriving Repr

namespace Request

/-- The method that answers with the next chunk. -/
def nextChunk : String := "ConsoleService.requestNextChunk"

/-- The method that is told that the program is unloaded. -/
def appUnload : String := "AppControlService.notifyAppUnload"

/-- The name of the session in the query. -/
def sessionParameter : String := "pageId"

/-- The call as a JSON value. -/
def toJson (r : Request) : Json :=
  .object [("id", .nat r.id.toNat), ("method", .string r.method), ("params", .array r.params)]

/-- The body of the call. -/
def body (r : Request) : String := r.toJson.compact

end Request

end RemoteConsole.Rpc
