import RemoteConsole.Display.Buffer
import RemoteConsole.Display.Writer

/-!
# Rehearsed collaborators

Collaborators that do as they are told, for a stream that is run without a server.

* `Rehearsal.converter`: certain words make it fail, panic, skip the chunk or clear the display.
* `Screen`: a display and what it shows.
* `Rehearsal.hooks`: hooks of which at most one panics.
-/

namespace RemoteConsole.Rehearsal

/-- The conversion of a text. -/
def textConversion (s : String) : Conversion :=
  if s = "fail" then .failed ⟨"cannot render fail"⟩
  else if s = "panic" then .panicked (.message "static panic")
  else if s = "panic-string" then .panicked (.message "panic on panic-string")
  else if s = "panic-any" then .panicked .other
  else if s = "skip" then .nothing
  else if s = "wipe" then .item .clear
  else .item (.text (Text.upperAscii s))

/-- Texts come out in capitals, apart from the words that are orders; records are dumped on one
line. -/
def converter : Converter.Rule
  | .text s => textConversion s
  | .record v => .item (.dump ("<" ++ v.compact ++ ">"))
  | .empty => .nothing
  | .batch _ => .nothing
  | .shutdown _ => .nothing

/-- The panic of a text on a display that is easily upset. -/
def upset? : Item → Option Panic
  | .text s =>
    let word := Text.lowerAscii s
    if word = "boom" then some (.message "display gone")
    else if word = "boom-string" then some (.message ("display gone: " ++ s))
    else if word = "boom-any" then some .other
    else none
  | .exception _ _ => none
  | .dump _ => none
  | .clear => none

/-- A display and what it shows: none at all, a buffer, a writer, or one that keeps every item it
is not upset by. -/
inductive Screen where
  | none
  | buffer (buffer : Buffer)
  | writer (mode : Writer.Mode) (writer : Writer)
  | touchy (items : List Item)
deriving DecidableEq, Repr

namespace Screen

/-- The display of the screen. -/
def display : Screen → Option Display
  | .none => Option.none
  | .buffer _ => some Buffer.display
  | .writer mode _ => some (Writer.display mode)
  | .touchy _ => some fun _ item => ⟨[], upset? item⟩

/-- The screen after its display was passed an item. -/
def accept : Screen → Item → Screen
  | .none, _ => .none
  | .buffer b, item => .buffer (b.accept item)
  | .writer mode w, item => .writer mode (w.accept mode item).1
  | .touchy items, item => .touchy (if (upset? item).isSome then items else items ++ [item])

/-- The screen after its display was passed items. -/
def acceptAll (s : Screen) (items : List Item) : Screen := items.foldl accept s

/-- The screen whose device does something else from now on. -/
def withMode (s : Screen) (mode : Writer.Mode) : Screen :=
  match s with
  | .writer _ w => .writer mode w
  | .none => s
  | .buffer _ => s
  | .touchy _ => s

end Screen

/-- The hooks that can panic. -/
inductive Hook where
  | close
  | suppress
  | unload
deriving DecidableEq, Repr

/-- The entry is a call to the hook. -/
def Hook.isCalledBy : Hook → Entry → Bool
  | .close, .closed => true
  | .suppress, .suppressed => true
  | .unload, .unloaded _ => true
  | _, _ => false

/-- Hooks of which the given one panics in every call. -/
def hooks (broken : Option Hook) : Hooks := fun _ entry =>
  match broken with
  | none => false
  | some hook => hook.isCalledBy entry

end RemoteConsole.Rehearsal
