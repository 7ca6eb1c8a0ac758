import RemoteConsole.Text.Alphanumeric
import RemoteConsole.Text.Pattern.Bracket

/-!
# Reading a pattern

`Pattern.parse?`: the pattern that a text writes down. Alternatives are separated by `|`; parts are
grouped by parentheses and repeated by `*`, `+` and `?`; `.` is any character of a line, `^` and `$`
are the ends of the text or of a line. A group may have a name, or change the flags, which a group
that does nothing else changes for all that follows in the group around it.

The readers take a bound on the number of their steps that the length of the text provides.
-/

namespace RemoteConsole.Text.Pattern

/-! ## Groups -/

/-- What an opening parenthesis begins: a group with its flags, or a change of the flags. -/
inductive Opening where
  | group (flags : Flags)
  | change (flags : Flags)
deriving DecidableEq, Repr

/-- The character may stand in the name of a group. -/
def canName (c : Char) : Bool := "_.[]".contains c || isAlphanumeric c

/-- The name of a group: it begins with a letter or an underscore, and no other group has it. -/
def isNewName (names : List String) (name : List Char) : Bool :=
  name.head?.any (fun c => c = '_' || isAlphabetic c) && name.all canName &&
    !names.contains (String.ofList name)

/-- The name of a group, up to the closing angle. -/
def groupName : Reading Unit := do
  let rest ← getRest
  let name := rest.takeWhile (· ≠ '>')
  match rest.dropWhile (· ≠ '>') with
  | _ :: rest =>
    if isNewName (← get).names name then
      modify fun p => { p with rest, names := .ofList name :: p.names }
    else failure
  | [] => failure

/-- The flags of a group, up to the sign that ends them. -/
def groupFlags : Reading Opening := do
  let rest ← getRest
  let isEnd (c : Char) : Bool := c = ':' || c = ')'
  let letters := rest.takeWhile (!isEnd ·)
  let flags ← need ((← getFlags).change? letters)
  match rest.dropWhile (!isEnd ·) with
  | ':' :: rest => goOn rest; return .group flags
  | _ :: rest => if letters.isEmpty then failure else goOn rest; return .change flags
  | [] => failure

/-- What an opening parenthesis begins, from behind it on. What looks around is refused. -/
def opening : Reading Opening := do
  skipSpace
  match ← getRest with
  | '?' :: 'P' :: '<' :: rest => goOn rest; groupName; return .group (← getFlags)
  | '?' :: '<' :: '=' :: _ => failure
  | '?' :: '<' :: '!' :: _ => failure
  | '?' :: '<' :: rest => goOn rest; groupName; return .group (← getFlags)
  | '?' :: rest => goOn rest; groupFlags
  | _ => return .group (← getFlags)

/-! ## Parts -/

/-- Any character, but for the ends of lines. -/
def dot : Reading Pattern := do
  let flags ← getFlags
  let ends : CharSet :=
    if flags.dotAll then .empty
    else if flags.crlf then .union (.ofChar '\r') (.ofChar '\n')
    else .ofChar '\n'
  return .one (← toAsciiLimit (.compl ends))

/-- The start of the text, or of a line. -/
def lineStart (flags : Flags) : Assertion :=
  if flags.multiline then (if flags.crlf then .lineStartCrlf else .lineStart) else .start

/-- The end of the text, or of a line. -/
def lineEnd (flags : Flags) : Assertion :=
  if flags.multiline then (if flags.crlf then .lineEndCrlf else .lineEnd) else .finish

/-- A part of a pattern that begins with a character. -/
def part (c : Char) : Reading Pattern := do
  match c with
  | '\\' => (← Element.escaped).toPattern
  | '[' => return .one (← bracket)
  | '.' => dot
  | '^' => return .assertion (lineStart (← getFlags))
  | '$' => return .assertion (lineEnd (← getFlags))
  | '\x7b' => failure
  | c => (Element.char c false).toPattern

/-- A part that is repeated as a sign says. A question mark after the sign changes what is
preferred. -/
def repeated (sign : Char) (p : Pattern) : Reading Pattern := do
  let rest ← getRest
  let isLazy := rest.head? = some '?'
  if isLazy then goOn (rest.drop 1)
  let greedy := isLazy == (← getFlags).swapsGreed
  return if sign = '*' then many greedy p else if sign = '+' then plus greedy p else optional greedy p

/-! ## Patterns -/

/-- Parts in a row, the last one first. A change of the flags is a part that has no pattern. -/
def inRow (parts : List (Option Pattern)) : Pattern :=
  match parts.filterMap id with
  | [] => empty
  | p :: before => before.foldl (fun q p => seq p q) p

/-- Alternatives, the last one first. -/
def alternatives (last : Pattern) (before : List Pattern) : Pattern :=
  before.foldl (fun q p => either p q) last

/-- The pattern up to the end of its group: after some alternatives and some parts of the current
one, the last first. -/
def body : Nat → List Pattern → List (Option Pattern) → Reading Pattern
  | 0, _, _ => failure
  | steps + 1, before, parts => do
    skipSpace
    match ← getRest with
    | [] => return alternatives (inRow parts) before
    | ')' :: _ => return alternatives (inRow parts) before
    | '|' :: rest => goOn rest; body steps (inRow parts :: before) []
    | '(' :: rest =>
      goOn rest
      match ← opening with
      | .change flags => setFlags flags; body steps before (none :: parts)
      | .group flags =>
        let outer ← getFlags
        setFlags flags
        let inner ← body steps [] []
        if (← next) ≠ ')' then failure
        setFlags outer
        body steps before (some inner :: parts)
    | c :: rest =>
      goOn rest
      if c = '*' ∨ c = '+' ∨ c = '?' then
        match parts with
        | some p :: parts => body steps before (some (← repeated c p) :: parts)
        | _ => failure
      else body steps before (some (← part c) :: parts)

/-- The pattern that a text writes down. -/
def parse? (text : String) : Option Pattern := do
  let chars := text.toList
  let (p, progress) ← (body (chars.length + 1) [] []).run ⟨chars, .start, []⟩
  if progress.rest.isEmpty then some p else none

/-- Characters, sets, groups and repetitions, on texts that they match. -/
example : [("s-1", "s-1"), ("[a-z&&[^b]]-.", "s-1"), ("(?:x|s)-\\x31$", "s-1"),
      ("(?x) s - 1", "s-1"), ("(?-u:\\w)+?$", "s-1")].map
    (fun (p, s) => (parse? p).map (·.matchesEnd s)) =
    [some true, some true, some true, some true, some true] := by
  decide +kernel

/-- What is not closed, or repeats nothing, is no pattern. -/
example : ["(", ")", "[a", "*", "a|*", "(?i)*", "\\", "[b-a]", "(?)"].map parse? =
    [none, none, none, none, none, none, none, none, none] := by
  decide +kernel

end RemoteConsole.Text.Pattern
