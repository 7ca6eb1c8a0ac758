import RemoteConsole.Log.FieldTest
import RemoteConsole.Log.Threshold
import RemoteConsole.Text.Bytes

/-!
# Directives of filters

* `Selector`: what a directive is about, by target, by the name of a span, and by a field.
* `Directive`: a selector, and up to which level it is kept.
* `Directive.read`: the directive of a text: a level, or `target[span{field=value}]=level`
  with any part but one left out.

The places of the signs that separate the parts are counted in bytes, in the text without the blanks
around it, and the parts are taken from the text as it stands. Such a place may be inside of a
character, where a text cannot be cut.
-/

namespace RemoteConsole.Log

/-- What a directive is about: targets that begin alike, spans of a name, and a field. -/
structure Selector where
  target : Option String
  span : Option String
  field : Option FieldTest
deriving DecidableEq, Repr

/-- What the selector is about is kept up to a threshold. -/
structure Directive where
  selector : Selector
  threshold : Threshold
deriving DecidableEq, Repr

/-- Why a text is no filter. -/
inductive FilterFlaw where
  | malformed
  | cutCharacter
deriving DecidableEq, Repr

/-! ## Kinds -/

namespace Selector

/-- The target begins as the selector says. -/
def hasTarget (s : Selector) (target : String) : Bool := s.target.all (target.startsWith ·)

/-- The span has the name that the selector says. -/
def hasName (s : Selector) (name : String) : Bool := s.span.all (· = name)

/-- The field that the selector asks for is one of these. -/
def hasField (s : Selector) (names : List String) : Bool := s.field.all (names.contains ·.name)

/-- The fields pass the test of the selector. -/
def passes (s : Selector) (fields : List (String × String)) : Bool := s.field.all (·.passes fields)

/-- The selector asks for the value of a field. -/
def asksValue (s : Selector) : Bool := s.field.any (·.value.isSome)

/-- The selector can be decided before anything happens: it asks for no span and no value. -/
def isStatic (s : Selector) : Bool := s.span.isNone && !s.asksValue

/-- The selector is about spans, and through them about what happens in them. -/
def isDynamic (s : Selector) : Bool := s.span.isSome || s.field.isSome

/-- The length of the target, so that a selector without one comes first. -/
def targetSize (s : Selector) : Nat :=
  match s.target with
  | some t => t.utf8ByteSize + 1
  | none => 0

/-- The selector is less specific than another, or alike: its target is shorter, or as long and it
asks for no field, or for one with a name that comes first. -/
def isWithin (s t : Selector) : Bool :=
  s.targetSize < t.targetSize || s.targetSize = t.targetSize &&
    match s.field, t.field with
    | none, _ => true
    | some _, none => false
    | some a, some b => a.name ≤ b.name

end Selector

/-! ## Reading -/

namespace Directive

/-- The part of a text between two places. -/
def cut (source : List Char) (first last : Nat) : Except FilterFlaw String :=
  match Text.between? source first last with
  | some cs => .ok (.ofList cs)
  | none => .error .cutCharacter

/-- The threshold that the text from a place on means; without a word all is kept. -/
def thresholdAt (source : List Char) (place : Nat) : Except FilterFlaw Threshold := do
  let word ← cut source place (Text.byteSize source)
  if word = "" then return some .trace
  match Threshold.ofWord? word with
  | some t => return t
  | none => throw .malformed

/-- What follows the brackets: a threshold, or nothing. -/
def afterBrackets (source : List Char) (selector : Selector) (place : Nat) :
    List Char → Except FilterFlaw Directive
  | [] => .ok ⟨selector, some .trace⟩
  | '=' :: _ => do return ⟨selector, ← thresholdAt source (place + 1)⟩
  | _ => .error .malformed

/-- A field, from behind its brace on. -/
def fieldAt (source : List Char) (target span : Option String) (place : Nat) (cs : List Char) :
    Except FilterFlaw Directive := do
  let text := cs.takeWhile (· ≠ '\x7d')
  let last := place + Text.byteSize text
  match cs.dropWhile (· ≠ '\x7d') with
  | [] => throw .malformed
  | _ :: cs =>
    let part ← cut source place last
    if text.isEmpty then throw .malformed
    match FieldTest.parse? part, cs with
    | some field, ']' :: cs => afterBrackets source ⟨target, span, some field⟩ (last + 2) cs
    | _, _ => throw .malformed

/-- A span, from behind its bracket on. -/
def spanAt (source : List Char) (target : Option String) (place : Nat) (cs : List Char) :
    Except FilterFlaw Directive := do
  let isEnd (c : Char) : Bool := c = ']' || c = '\x7b'
  let last := place + Text.byteSize (cs.takeWhile (!isEnd ·))
  match cs.dropWhile (!isEnd ·) with
  | [] => throw .malformed
  | ']' :: cs =>
    let name ← cut source place last
    afterBrackets source ⟨target, some name, none⟩ (last + 1) cs
  | _ :: cs =>
    let name ← cut source place last
    fieldAt source target (if name = "" then none else some name) (last + 1) cs

/-- The directive of a word: a level, or a target that is kept whole. -/
def ofWord (word : String) : Directive :=
  match Threshold.ofWord? word with
  | some t => ⟨⟨none, none, none⟩, t⟩
  | none => ⟨⟨some word, none, none⟩, some .trace⟩

/-- A word or a target may begin with the character. -/
def canBegin (c : Char) : Bool := c = '-' || c = ':' || c = '_' || Text.isAlphanumeric c

/-- The directive of a text. -/
def read (text : String) : Except FilterFlaw Directive := do
  let source := text.toList
  let isEnd (c : Char) : Bool := c = '=' || c = '['
  match Text.dropBlankEnd (Text.dropBlank source) with
  | [] => throw .malformed
  | '[' :: cs => spanAt source none 1 cs
  | c :: cs =>
    if !canBegin c then throw .malformed
    let last := Text.byteSize ((c :: cs).takeWhile (!isEnd ·))
    match (c :: cs).dropWhile (!isEnd ·) with
    | [] => return ofWord text
    | '=' :: _ =>
      let target ← cut source 0 last
      return ⟨⟨some target, none, none⟩, ← thresholdAt source (last + 1)⟩
    | _ :: cs =>
      let target ← cut source 0 last
      spanAt source (some target) (last + 1) cs

/-- Spans with a level and without one, and one that is not closed. -/
example : ["[b]", "[b]=3", "[b]=Off", "[b"].map
      (fun s => (spanAt s.toList none 1 (s.toList.drop 1)).toOption) =
    [some ⟨⟨none, some "b", none⟩, some .trace⟩, some ⟨⟨none, some "b", none⟩, some .info⟩,
      some ⟨⟨none, some "b", none⟩, none⟩, none] := by
  decide +kernel

end Directive

end RemoteConsole.Log
