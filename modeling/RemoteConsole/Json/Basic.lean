/-!
# JSON values

* `Json`: a JSON value. An object is the list of its members; a value that was read from a text
  has them in the order of their keys, each key once.
* `Json.get?`: the member of an object with a given key.
* `Json.insertMember`: puts a member at its place in the order of the keys, where it replaces an
  earlier member with the same key.
-/

namespace RemoteConsole

/-- A JSON number: an integer of 64 bits, signed or unsigned, or a double. -/
inductive Json.Number where
  | integer (value : Int)
  | float (value : Float)
deriving DecidableEq, Repr

/-- A JSON value. -/
inductive Json where
  | null
  | bool (value : Bool)
  | number (value : Json.Number)
  | string (value : String)
  | array (items : List Json)
  | object (members : List (String × Json))
deriving Repr

namespace Json

/-- The natural number as a JSON value. -/
def nat (n : Nat) : Json := .number (.integer n)

/-- The integer as a JSON value. -/
def int (n : Int) : Json := .number (.integer n)

/-- The text as a JSON value, or `null`. -/
def stringOrNull : Option String → Json
  | some s => .string s
  | none => .null

/-- The first value that the list holds for the key. -/
def lookup (key : String) : List (String × Json) → Option Json
  | [] => none
  | (k, v) :: rest => if k = key then some v else lookup key rest

/-- The member of an object with the key. -/
def get? (key : String) : Json → Option Json
  | .object members => lookup key members
  | _ => none

/-- The text of a string. -/
def asString? : Json → Option String
  | .string s => some s
  | _ => none

/-- The truth value of a boolean. -/
def asBool? : Json → Option Bool
  | .bool b => some b
  | _ => none

/-- The value of an integer that a signed word of 64 bits holds. -/
def asInt64? : Json → Option Int
  | .number (.integer n) => if n < 0x8000000000000000 then some n else none
  | _ => none

/-- Puts the member at the place of its key in a list that is sorted by keys; a member with this
key is replaced. -/
def insertMember (key : String) (value : Json) : List (String × Json) → List (String × Json)
  | [] => [(key, value)]
  | (k, v) :: rest =>
    if key < k then (key, value) :: (k, v) :: rest
    else if key = k then (key, value) :: rest
    else (k, v) :: insertMember key value rest

theorem asString?_eq_some_iff {v : Json} {s : String} : v.asString? = some s ↔ v = .string s := by
  cases v with
  | string t => exact ⟨fun h => congrArg string (Option.some.inj h), fun h => h ▸ rfl⟩
  | null | bool | number | array | object => exact ⟨nofun, nofun⟩

end Json

end RemoteConsole
