/-!
# Items for a display

`Item` is what a chunk becomes before it is shown: a text, a summary of an exception of the
server, the dump of a record, or the request to clear the display.
-/

namespace RemoteConsole

/-- Something a display can show. -/
inductive Item where
  | text (content : String)
  | exception (className : String) (message : Option String)
  | dump (content : String)
  | clear
deriving DecidableEq, Repr

/-- The content of a text. -/
def Item.text? : Item → Option String
  | .text s => some s
  | .exception _ _ => none
  | .dump _ => none
  | .clear => none

end RemoteConsole
