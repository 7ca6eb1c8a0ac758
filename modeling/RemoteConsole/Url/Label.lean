import RemoteConsole.Text.Direction
import RemoteConsole.Text.Joining
import RemoteConsole.Text.Mark

/-!
# Labels of domains

A domain is made of labels between points. A label that holds more than ASCII may not look like
another one, or be read in another order than it is written.

* `joinersFit`: the characters that join or part the letters beside them stand where they show.
* `runsOneWay`: the label is read in one direction.
* `isProper`: the label begins with no mark, and its joiners fit.
* `turnsLeft`: the label holds a character that is read to the left, so that all labels of its
  domain have to run one way.
-/

namespace RemoteConsole.Url.Label

open Text

/-! ## Joiners -/

/-- The character that parts letters. -/
def nonJoiner : Char := '\u200c'

/-- The character that joins letters. -/
def joiner : Char := '\u200d'

/-- The next letter, marks passed over, joins in one of the ways. -/
def meets (ways : List Joining) (cs : List Char) : Bool :=
  match cs.find? fun c => joining c ≠ .transparent with
  | some c => ways.contains (joining c)
  | none => false

/-- A joiner fits between the characters before it, the last first, and those after it: it follows
a virama, or it parts two letters that would join. -/
def joinerFits (c : Char) (before after : List Char) : Bool :=
  match before with
  | [] => false
  | d :: _ =>
    combiningClass d = virama ||
      (c = nonJoiner && meets [.left, .dual] before && meets [.right, .dual] after)

/-- All joiners fit, after the characters that were read, the last first. -/
def joinersFitAfter (before : List Char) : List Char → Bool
  | [] => true
  | c :: rest =>
    (!(c = nonJoiner || c = joiner) || joinerFits c before rest) && joinersFitAfter (c :: before) rest

/-- All joiners of the label fit. -/
def joinersFit (label : List Char) : Bool := joinersFitAfter [] label

/-- The label begins with no mark, and its joiners fit. -/
def isProper (label : List Char) : Bool := !(label.head?.any isMark) && joinersFit label

/-! ## Directions -/

/-- The label holds a character that is read to the left. -/
def turnsLeft (label : List Char) : Bool :=
  label.any fun c => [Direction.right, .arabicLetter, .arabicNumber].contains (direction c)

/-- What stands in labels of both directions. -/
def common : List Direction :=
  [.europeanNumber, .europeanSeparator, .commonSeparator, .europeanTerminator, .neutral, .boundary,
    .nonspacingMark]

/-- The directions of a label to the right: letters, and what stands between them; at the end a
letter or a number. -/
def runsRight (ds : List Direction) (last : Direction) : Bool :=
  ds.all (.left :: common).contains && [Direction.left, .europeanNumber].contains last

/-- The directions of a label to the left: letters, numbers of one kind, and what stands between
them; at the end a letter or a number. -/
def runsLeft (ds : List Direction) (last : Direction) : Bool :=
  ds.all (.right :: .arabicLetter :: .arabicNumber :: common).contains &&
    [Direction.right, .arabicLetter, .europeanNumber, .arabicNumber].contains last &&
    !(ds.contains .europeanNumber && ds.contains .arabicNumber)

/-- The label is empty, or it is read in the direction of its first letter. Marks at its end belong
to the character before them. -/
def runsOneWay (label : List Char) : Bool :=
  let ds := label.map direction
  match ds, (ds.reverse.dropWhile (· = .nonspacingMark)).head? with
  | [], _ => true
  | .left :: _, some last => runsRight ds last
  | .right :: _, some last => runsLeft ds last
  | .arabicLetter :: _, some last => runsLeft ds last
  | _, _ => false

end RemoteConsole.Url.Label
