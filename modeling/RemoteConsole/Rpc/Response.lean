import RemoteConsole.Failure
import RemoteConsole.Text.Blank
import RemoteConsole.Text.Bytes

/-!
# Answers of the server

`Rpc.parseResponse` reads the status and the body of an answer: the result of the call, or the
failure that they describe.
-/

namespace RemoteConsole.Rpc

/-- The status says that the call reached its method. -/
def isSuccess (status : Nat) : Bool := 200 ≤ status && status < 300

/-- The characters of a body that a message keeps. -/
def detailLength : Nat := 200

/-- The failure for a status that is no success. -/
def statusError (status : Nat) (body : String) : FetchError :=
  let detail := Text.trim body
  let message := s!"HTTP status {status}"
  ⟨status, some (if detail = "" then message else
    message ++ ": " ++ Text.truncate detailLength detail)⟩

/-- The code, if it is an integer of 32 bits. -/
def codeOf (v : Json) : Option Int :=
  (v.asInt64?).bind fun n => if -0x80000000 ≤ n ∧ n < 0x80000000 then some n else none

/-- The failure that the member `error` of an answer describes. -/
def memberError (error : Json) : FetchError :=
  ⟨((error.get? "code").bind codeOf).getD FetchError.transportCode,
    ((error.get? "msg").or (error.get? "message")).bind Json.asString?⟩

/-- The result of a call from the members of its answer; a result that is missing is `null`. -/
def resultOf (members : List (String × Json)) : Except FetchError Json :=
  match Json.lookup "error" members with
  | none => .ok ((Json.lookup "result" members).getD .null)
  | some .null => .ok ((Json.lookup "result" members).getD .null)
  | some error => .error (memberError error)

/-- The result of a call from the status and the body of its answer. -/
def parseResponse (status : Nat) (body : String) : Except FetchError Json :=
  if isSuccess status then
    match Json.parse body with
    | .error flaw => .error (.unreadable ("invalid JSON-RPC response: " ++ flaw.message))
    | .ok (.object members) => resultOf members
    | .ok _ => .error (.unreadable "JSON-RPC response is not an object")
  else .error (statusError status body)

end RemoteConsole.Rpc
