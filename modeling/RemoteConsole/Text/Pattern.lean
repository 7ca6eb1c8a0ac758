import RemoteConsole.Text.CharSet

/-!
# Patterns

* `Pattern`: what a text may look like, with the ways to read it in an order of preference.
* `Way`: patterns that are still to come, one after the other.
* `Pattern.moves`: what ways may do at a place of a text: stop, or take a character and go on.
* `Pattern.matchesEnd`: a search for the pattern has a match that ends at the end of the text.

A search starts anew at every place of the text. Ways are kept in the order of preference, those
that started first in front. A way that may stop cuts off the ways behind it, and from then on none
starts anew. At a place each way is looked at once, where it is met first, so that a repetition
that takes nothing comes to an end.
-/

namespace RemoteConsole.Text

/-! ## Places -/

/-- A place of a text, by the characters at its sides. -/
structure Place where
  before : Option Char
  after : Option Char
deriving DecidableEq, Repr

/-- What a pattern may ask of a place. -/
inductive Assertion where
  | start
  | finish
  | lineStart
  | lineEnd
  | lineStartCrlf
  | lineEndCrlf
  | wordEdge
  | noWordEdge
  | wordStart
  | wordEnd
deriving DecidableEq, Repr

/-- There is a character, and words are made of it. -/
def isWordChar (c : Option Char) : Bool := c.any CharSet.word.contains

/-- The assertion holds at the place. A line ends with a line feed; in the forms for CRLF also with
a carriage return, and not between the two. -/
def Assertion.holds (p : Place) : Assertion → Bool
  | start => p.before.isNone
  | finish => p.after.isNone
  | lineStart => p.before.isNone || p.before = some '\n'
  | lineEnd => p.after.isNone || p.after = some '\n'
  | lineStartCrlf =>
    p.before.isNone || p.before = some '\n' || (p.before = some '\r' && p.after ≠ some '\n')
  | lineEndCrlf =>
    p.after.isNone || p.after = some '\r' || (p.after = some '\n' && p.before ≠ some '\r')
  | wordEdge => isWordChar p.before != isWordChar p.after
  | noWordEdge => isWordChar p.before == isWordChar p.after
  | wordStart => !isWordChar p.before && isWordChar p.after
  | wordEnd => isWordChar p.before && !isWordChar p.after

/-! ## Patterns -/

/-- A pattern. Of two alternatives the first is preferred. A greedy repetition prefers to go on.
`star` repeats any number of times, `plus` once or more. -/
inductive Pattern where
  | empty
  | one (s : CharSet)
  | assertion (a : Assertion)
  | seq (p q : Pattern)
  | either (p q : Pattern)
  | star (greedy : Bool) (p : Pattern)
  | plus (greedy : Bool) (p : Pattern)
deriving DecidableEq, Repr

/-- What is still to come, one after the other. -/
abbrev Way := List Pattern

/-- What a way may do: stop, or take a character of a set and go on. -/
inductive Move where
  | stop
  | take (s : CharSet) (rest : Way)
deriving DecidableEq, Repr

namespace Move

/-- The move takes a character. -/
def takes : Move → Bool
  | stop => false
  | take _ _ => true

/-- What is left of the move after a character. -/
def rest? (c : Char) : Move → Option Way
  | stop => none
  | take s rest => if s.contains c then some rest else none

end Move

/-- The ways that have been looked at, and the moves that were found, in the order of
preference. -/
structure Outlook where
  seen : List Way
  moves : List Move
deriving DecidableEq, Repr

namespace Pattern

/-- The number of parts of a pattern. -/
def size : Pattern → Nat
  | empty => 1
  | one _ => 1
  | assertion _ => 1
  | seq p q => p.size + q.size + 1
  | either p q => p.size + q.size + 1
  | star _ p => p.size + 1
  | plus _ p => p.size + 1

/-- No time or one time. -/
def optional (greedy : Bool) (p : Pattern) : Pattern :=
  if greedy then either p empty else either empty p

/-- Any number of times, where the first time may take nothing. -/
def many (greedy : Bool) (p : Pattern) : Pattern := optional greedy (plus greedy p)

/-- The outlook after a way has been looked at, and what it leads to before it takes a character. -/
def explore (place : Place) : Nat → Outlook → Way → Outlook
  | 0, o, _ => o
  | steps + 1, o, way =>
    if o.seen.contains way then o
    else
      let o := { o with seen := way :: o.seen }
      match way with
      | [] => { o with moves := o.moves ++ [.stop] }
      | empty :: rest => explore place steps o rest
      | one s :: rest => { o with moves := o.moves ++ [.take s rest] }
      | assertion a :: rest => if a.holds place then explore place steps o rest else o
      | seq p q :: rest => explore place steps o (p :: q :: rest)
      | either p q :: rest => explore place steps (explore place steps o (p :: rest)) (q :: rest)
      | star true p :: rest =>
        explore place steps (explore place steps o (p :: star true p :: rest)) rest
      | star false p :: rest =>
        explore place steps (explore place steps o rest) (p :: star false p :: rest)
      | plus greedy p :: rest => explore place steps o (p :: star greedy p :: rest)

/-- More steps than there are ways to look at: one for each part of the pattern, one more for each
of its repetitions, and the way that is done. -/
def steps (p : Pattern) : Nat := 2 * p.size + 2

/-- The moves of ways at a place, in the order of preference. -/
def moves (p : Pattern) (place : Place) (ways : List Way) : List Move :=
  (ways.foldl (explore place p.steps) ⟨[], []⟩).moves

/-- The ways that are left after a character: of those in front of the first that stops. -/
def advance (c : Char) (ms : List Move) : List Way :=
  (ms.takeWhile Move.takes).filterMap (Move.rest? c)

/-- One of the ways stops at the end of the text. While `anew` holds, the pattern starts anew at
every place. -/
def search (p : Pattern) (anew : Bool) (ways : List Way) (before : Option Char) :
    List Char → Bool
  | [] => (p.moves ⟨before, none⟩ (if anew then ways ++ [[p]] else ways)).contains .stop
  | c :: cs =>
    let ms := p.moves ⟨before, some c⟩ (if anew then ways ++ [[p]] else ways)
    search p (anew && !ms.contains .stop) (advance c ms) (some c) cs

/-- A search for the pattern has a match that ends at the end of the text. -/
def matchesEnd (p : Pattern) (text : String) : Bool := search p true [] none text.toList

/-- The pattern of a text that stands for itself. -/
def ofChars : List Char → Pattern
  | [] => empty
  | c :: cs => seq (one (.ofChar c)) (ofChars cs)

/-- A text is found at the end of another; the empty one is found before. -/
example : [("b", "ab"), ("ab", "ab"), ("a", "ab"), ("", "ab"), ("", "")].map
    (fun (p, s) => (ofChars p.toList).matchesEnd s) = [true, true, false, false, true] := by
  decide +kernel

/-- A greedy repetition reaches the end, one that is not stops before it. -/
example : [true, false].map (fun greedy =>
    (plus greedy (one .word)).matchesEnd "ab") = [true, false] := by
  decide +kernel

end Pattern

end RemoteConsole.Text
