import RemoteConsole.Chunk.Wire
import RemoteConsole.ClientError
import RemoteConsole.Fault
import RemoteConsole.Item
import RemoteConsole.Json.Printer

/-!
# From chunks to items

* `Conversion`: what converting a chunk comes to: an item, nothing, a failure, or a panic.
* `Converter`: what converts chunks, by the chunks before if it likes. `Converter.Rule`: one that
  goes by the chunk alone.
* `ServerException.ofJson?`: the exception of the server that a record describes.
* `Converter.standard`: texts are shown as they are, exceptions in short, a record of the form
  `ClearConsole` clears the display, and any other record is dumped.
-/

namespace RemoteConsole

/-- What converting a chunk comes to. -/
inductive Conversion where
  | item (item : Item)
  | nothing
  | failed (error : ConvertError)
  | panicked (panic : Panic)
deriving DecidableEq, Repr

/-- What converts chunks: a chunk is converted after the chunks that were converted before. -/
structure Converter where
  convert : List Chunk → Chunk → Conversion

/-- A rule that converts every chunk by itself. -/
abbrev Converter.Rule := Chunk → Conversion

instance : Coe Converter.Rule Converter := ⟨fun rule => ⟨fun _ => rule⟩⟩

/-- An exception of the server. -/
structure ServerException where
  className : String
  message : Option String
deriving DecidableEq, Repr

namespace ServerException

/-- The members that a record has to have to describe an exception. -/
def keys : List String := ["cause", Chunk.classKey, "message", "stackTrace"]

/-- The name of a class; a class that is not given as text is shown as JSON. -/
def classText : Json → String
  | .string s => s
  | v => v.compact

/-- The exception that a record describes: it has all the members of one. -/
def ofJson? : Json → Option ServerException
  | .object members =>
    if keys.all fun key => (Json.lookup key members).isSome then
      (Json.lookup Chunk.classKey members).map fun v =>
        ⟨classText v, (Json.lookup "message" members).bind Json.asString?⟩
    else none
  | _ => none

/-- The exception as an item. -/
def item (e : ServerException) : Item := .exception e.className e.message

end ServerException

namespace Converter

/-- The record asks for the display to be cleared. -/
def asksToClear (v : Json) : Bool := (v.get? "_").bind Json.asString? == some "ClearConsole"

/-- The item for a record. -/
def recordItem (v : Json) : Item :=
  match ServerException.ofJson? v with
  | some e => e.item
  | none => if asksToClear v then .clear else .dump v.pretty

/-- The rule that knows texts, exceptions, and the record that clears the display. -/
def standard : Rule
  | .text s => .item (.text s)
  | .record v => .item (recordItem v)
  | .empty => .nothing
  | .batch _ => .nothing
  | .shutdown _ => .nothing

end Converter

end RemoteConsole
