import RemoteConsole.Log.Record

/-!
# Remarks and spans

* `Span`: a stretch of a program's run, with a name and fields, that remarks are made in.
* `Remark`: something that a program records, with the spans around it.
-/

namespace RemoteConsole.Log

/-- A span: what it is called, its level and target, and its fields. -/
structure Span where
  name : String
  level : Level
  target : String
  fields : List (String × String)
deriving DecidableEq, Repr

/-- Something that a program records: its level, its target, its text, and the spans around it, the
outermost first. -/
structure Remark where
  level : Level
  target : String
  text : String
  spans : List Span
deriving DecidableEq, Repr

/-- The names of the fields of a remark, which has its text alone. -/
def Remark.fieldNames : List String := ["message"]

/-- The names of the fields of a span. -/
def Span.fieldNames (s : Span) : List String := s.fields.map (·.1)

end RemoteConsole.Log
