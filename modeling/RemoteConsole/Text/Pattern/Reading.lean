import RemoteConsole.Text.Blank
import RemoteConsole.Text.Pattern

/-!
# Reading patterns

* `Flags`: how what follows in a pattern is meant.
* `Reading`: a step of reading a pattern, which may refuse it. It goes on with the characters that
  are left, the flags, and the names of groups so far.
* `next`, `skipSpace`: past a character, and past what spaced patterns may hold between their parts.
* `toAsciiLimit`, `foldCase`: the sets that the flags allow. Letter case and sets of classes are
  known for ASCII only, so both are refused where all characters are meant.
-/

namespace RemoteConsole.Text.Pattern

/-! ## Flags -/

/-- How what follows in a pattern is meant. `unicode` means all characters, and ASCII alone
without it. -/
structure Flags where
  caseless : Bool
  multiline : Bool
  dotAll : Bool
  swapsGreed : Bool
  unicode : Bool
  crlf : Bool
  spaced : Bool
deriving DecidableEq, Repr

namespace Flags

/-- The flags at the start of a pattern. -/
def start : Flags := ⟨false, false, false, false, true, false, false⟩

/-- The flags with that of a letter turned on or off. -/
def set? (value : Bool) (f : Flags) (letter : Char) : Option Flags :=
  match letter with
  | 'i' => some { f with caseless := value }
  | 'm' => some { f with multiline := value }
  | 's' => some { f with dotAll := value }
  | 'U' => some { f with swapsGreed := value }
  | 'u' => some { f with unicode := value }
  | 'R' => some { f with crlf := value }
  | 'x' => some { f with spaced := value }
  | _ => none

/-- The flags after a change such as `im-x`: the letters before the sign are turned on, those after
it off. Each stands once, and one at least after the sign. -/
def change? (f : Flags) (letters : List Char) : Option Flags :=
  if letters.eraseDups.length = letters.length ∧ letters.getLast? ≠ some '-' then do
    let f ← (letters.takeWhile (· ≠ '-')).foldlM (set? true) f
    ((letters.dropWhile (· ≠ '-')).drop 1).foldlM (set? false) f
  else none

end Flags

/-! ## Steps -/

/-- How far a pattern has been read: what is left, the flags, and the names of groups. -/
structure Progress where
  rest : List Char
  flags : Flags
  names : List String
deriving DecidableEq, Repr

/-- A step of reading a pattern. -/
abbrev Reading := StateT Progress Option

/-- The flags. -/
def getFlags : Reading Flags := return (← get).flags

/-- The characters that are left. -/
def getRest : Reading (List Char) := return (← get).rest

/-- Goes on with the characters. -/
def goOn (rest : List Char) : Reading Unit := modify fun p => { p with rest }

/-- Goes on with the flags. -/
def setFlags (flags : Flags) : Reading Unit := modify fun p => { p with flags }

/-- The value of an option, which must have one. -/
def need {α : Type} : Option α → Reading α
  | some a => return a
  | none => failure

/-- The next character. -/
def next : Reading Char := do
  match ← getRest with
  | [] => failure
  | c :: rest => goOn rest; return c

/-- The characters after white space and comments. -/
def afterSpace (inComment : Bool) : List Char → List Char
  | [] => []
  | c :: rest =>
    if inComment then afterSpace (c ≠ '\n') rest
    else if c = '#' then afterSpace true rest
    else if isBlank c then afterSpace false rest
    else c :: rest

/-- Past white space and comments, where they do not count. -/
def skipSpace : Reading Unit := do
  if (← getFlags).spaced then goOn (afterSpace false (← getRest))

/-! ## Sets -/

/-- The set, unless it goes beyond ASCII where ASCII alone is meant. -/
def toAsciiLimit (s : CharSet) : Reading CharSet := do
  if (← getFlags).unicode || !s.has 0x80 then return s else failure

/-- The set with the letters of the other case where letter case does not count. -/
def foldCase (s : CharSet) : Reading CharSet := do
  let flags ← getFlags
  if !flags.caseless || s = .empty then return s
  else if flags.unicode then failure
  else return .caseless s

end RemoteConsole.Text.Pattern
