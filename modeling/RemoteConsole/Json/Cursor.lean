import RemoteConsole.Json.Flaw
import RemoteConsole.Text.Digit

/-!
# A place in a text that is being read

* `Cursor`: the characters that are left, and the place that they start at.
* `Cursor.here`, `Cursor.next`: the places a flaw is reported at, before and after the next byte.
* `Cursor.skipBlanks`: past the blanks of JSON.
* `Cursor.literal`: past the letters of a word that has begun.
-/

namespace RemoteConsole.Json

/-- The characters left of a text, and where they start. -/
structure Cursor where
  rest : List Char
  line : Nat
  column : Nat
deriving Repr

namespace Cursor

/-- The start of a text. -/
def ofString (s : String) : Cursor := ⟨s.toList, 1, 0⟩

/-- The place of the cursor. -/
def here (c : Cursor) : Position := ⟨c.line, c.column⟩

/-- The cursor after the character `x`, before the characters `rest`. -/
def past (c : Cursor) (x : Char) (rest : List Char) : Cursor :=
  if x = '\n' then ⟨rest, c.line + 1, 0⟩ else ⟨rest, c.line, c.column + x.utf8Size⟩

/-- The cursor after the next character. -/
def advance (c : Cursor) : Cursor :=
  match c.rest with
  | [] => c
  | x :: rest => c.past x rest

/-- The place `n` bytes after the cursor, at most at the end of the text. -/
def after (c : Cursor) : Nat → Position
  | n => go n c.rest c
where
  go (n : Nat) : List Char → Cursor → Position
    | [], c => c.here
    | x :: rest, c =>
      if n = 0 then c.here
      else if x.utf8Size ≤ n then go (n - x.utf8Size) rest (c.past x rest)
      else ⟨c.line, c.column + n⟩

/-- The place after the next byte. -/
def next (c : Cursor) : Position := c.after 1

/-- The place at the end of the text. -/
def finish (c : Cursor) : Position := go c.rest c
where
  go : List Char → Cursor → Position
    | [], c => c.here
    | x :: rest, c => go rest (c.past x rest)

/-- A flaw at the cursor. -/
def fail {α : Type} (c : Cursor) (cause : Cause) : Except Flaw α := .error ⟨cause, c.here⟩

/-- A flaw after the next byte. -/
def failNext {α : Type} (c : Cursor) (cause : Cause) : Except Flaw α := .error ⟨cause, c.next⟩

/-- The cursor at the first character that is not a blank of JSON. -/
def skipBlanks (c : Cursor) : Cursor := go c.rest c
where
  go : List Char → Cursor → Cursor
    | [], c => c
    | x :: rest, c =>
      if x = ' ' ∨ x = '\n' ∨ x = '\t' ∨ x = '\r' then go rest (c.past x rest) else c

/-- The cursor after the digits that follow. -/
def skipDigits (c : Cursor) : Cursor := go c.rest c
where
  go : List Char → Cursor → Cursor
    | [], c => c
    | x :: rest, c => if x.isDigit then go rest (c.past x rest) else c

/-- The digit that follows. -/
def digit? (c : Cursor) : Option Nat :=
  match c.rest with
  | x :: _ => if x.isDigit then some (x.toNat - 48) else none
  | [] => none

/-- The cursor after these letters, the rest of a word that has begun. -/
def literal (c : Cursor) : List Char → Except Flaw Cursor
  | [] => .ok c
  | x :: word =>
    match c.rest with
    | [] => c.fail .endInValue
    | y :: rest => if x = y then (c.past y rest).literal word else c.failNext .expectedIdent

/-- The bytes left of the text. -/
def bytesLeft (c : Cursor) : Nat := c.rest.foldl (fun n x => n + x.utf8Size) 0

/-- The number that four hexadecimal digits stand for. -/
def hexEscape (c : Cursor) : Except Flaw (Nat × Cursor) :=
  match c.rest with
  | a :: b :: d :: e :: rest =>
    match Text.hexValue? a, Text.hexValue? b, Text.hexValue? d, Text.hexValue? e with
    | some a, some b, some d, some e =>
      .ok (((a * 16 + b) * 16 + d) * 16 + e, ⟨rest, c.line, c.column + 4⟩)
    | _, _, _, _ => .error ⟨.invalidEscape, c.after 4⟩
  | _ =>
    if 4 ≤ c.bytesLeft then .error ⟨.invalidEscape, c.after 4⟩ else .error ⟨.endInString, c.finish⟩

end Cursor

end RemoteConsole.Json
