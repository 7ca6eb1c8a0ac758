import RemoteConsole.Chunk

/-!
# Chunks on the wire

* `Chunk.ofJson`: the chunk that the server's answer stands for; `null` says that the console was
  closed.
* `Chunk.decode`: a chunk inside an answer, where `null` is an empty chunk.
* `Chunk.ofText`: the chunk of a text.

An object is an envelope or a shutdown notice by the last part of its class name, after the last
point or dollar sign; every other object is a record.
-/

namespace RemoteConsole.Chunk

/-- The member that names the class of an object. -/
def classKey : String := "javaClass"

/-- The part of a class name after its last point or dollar sign. -/
def lastSegment (name : String) : String :=
  String.ofList (name.toList.reverse.takeWhile fun c => c ≠ '.' && c ≠ '$').reverse

/-- The classes that are not records. -/
inductive Reserved where
  | envelope
  | shutdown
deriving DecidableEq, Repr

/-- The reserved class with the name. -/
def Reserved.ofClass (name : String) : Option Reserved :=
  let segment := lastSegment name
  if segment = "MultipleChunks" then some .envelope
  else if segment = "ShutdownNotice" then some .shutdown
  else none

/-- The reserved class of an object with these members. -/
def reserved? (members : List (String × Json)) : Option Reserved :=
  ((Json.lookup classKey members).bind Json.asString?).bind Reserved.ofClass

/-- Whether the members of a shutdown notice say that it is clean. -/
def isClean (members : List (String × Json)) : Bool :=
  ((Json.lookup "clean" members).bind Json.asBool?).getD false

/-- The chunk of a text. -/
def ofText (s : String) : Chunk := if s = "" then .empty else .text s

mutual

/-- The chunk that a value inside an answer stands for. -/
def decode : Json → Chunk
  | .null => .empty
  | .string s => ofText s
  | .object members =>
    match reserved? members with
    | some .envelope => .batch (contents members)
    | some .shutdown => .shutdown (isClean members)
    | none => .record (.object members)
  | .array items => .record (.array items)
  | .bool b => .record (.bool b)
  | .number n => .record (.number n)

/-- The chunks in an envelope with these members. -/
def contents : List (String × Json) → List Chunk
  | [] => []
  | (key, v) :: rest => if key = "chunks" then chunksOf v else contents rest

/-- The chunks of an array, which may be wrapped in an object. -/
def chunksOf : Json → List Chunk
  | .array items => decodeAll items
  | .object members => wrapped members
  | .null => []
  | .bool _ => []
  | .number _ => []
  | .string _ => []

/-- The chunks of the array that an object wraps. -/
def wrapped : List (String × Json) → List Chunk
  | [] => []
  | (key, v) :: rest => if key = "list" then arrayOf v else wrapped rest

/-- The chunks of an array. -/
def arrayOf : Json → List Chunk
  | .array items => decodeAll items
  | .object _ => []
  | .null => []
  | .bool _ => []
  | .number _ => []
  | .string _ => []

/-- The chunks of the items of an array. -/
def decodeAll : List Json → List Chunk
  | [] => []
  | v :: rest => decode v :: decodeAll rest

end

/-- The chunk that an answer stands for; there is none when the console was closed. -/
def ofJson : Json → Option Chunk
  | .null => none
  | v => some (decode v)

end RemoteConsole.Chunk
