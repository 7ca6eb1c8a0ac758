import RemoteConsole.Json.Printer

/-!
# Sessions and endpoints

A session and an endpoint are names that the client passes on. `SessionId.ofBytes` makes a random
session out of sixteen random bytes, in the form of a random UUID.
-/

namespace RemoteConsole

/-- The name of the session of a console. -/
structure SessionId where
  value : String
deriving DecidableEq, Repr

/-- The address of a server. -/
structure Endpoint where
  value : String
deriving DecidableEq, Repr

namespace SessionId

/-- The name as a JSON value. -/
def toJson (s : SessionId) : Json := .string s.value

/-- A byte as two hexadecimal digits. -/
def hexByte (b : UInt8) : List Char :=
  [Json.hexDigit (b.toNat / 16), Json.hexDigit (b.toNat % 16)]

/-- The bytes of a random UUID: the version is four, and the variant is the usual one. -/
def stamp (bytes : List UInt8) : List UInt8 :=
  bytes.zipIdx.map fun (b, i) =>
    if i = 6 then (b &&& 0x0f) ||| 0x40
    else if i = 8 then (b &&& 0x3f) ||| 0x80
    else b

/-- Sixteen bytes in five groups. -/
def grouped (bytes : List UInt8) : String :=
  let part (start length : Nat) : String :=
    String.ofList (((bytes.drop start).take length).flatMap hexByte)
  "-".intercalate [part 0 4, part 4 2, part 6 2, part 8 2, part 10 6]

/-- The session of sixteen random bytes. -/
def ofBytes (bytes : List UInt8) : SessionId := ⟨grouped (stamp bytes)⟩

end SessionId

/-- The address as a JSON value. -/
def Endpoint.toJson (e : Endpoint) : Json := .string e.value

end RemoteConsole
