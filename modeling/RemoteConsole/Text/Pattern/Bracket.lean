import RemoteConsole.Text.Pattern.Escape

/-!
# Brackets of patterns

`bracket` reads a set in brackets, such as `[a-z_]`, from behind its opening bracket on. A bracket
may hold characters, ranges, further brackets, and named sets such as `[:digit:]`; `&&`, `--` and
`~~` stand between two sets for what is in both, in the first alone, and in one of them alone.
-/

namespace RemoteConsole.Text.Pattern

/-- What stands between two sets. -/
inductive SetOperator where
  | inter
  | diff
  | symmDiff
deriving DecidableEq, Repr

/-- The operator that a bracket goes on with, and what follows it. -/
def SetOperator.ofStart? : List Char → Option (SetOperator × List Char)
  | '&' :: '&' :: rest => some (.inter, rest)
  | '-' :: '-' :: rest => some (.diff, rest)
  | '~' :: '~' :: rest => some (.symmDiff, rest)
  | _ => none

/-- The set that the operator makes of two. -/
def SetOperator.apply : SetOperator → CharSet → CharSet → CharSet
  | inter => .inter
  | diff => .diff
  | symmDiff => .symmDiff

/-- The set of a bracket so far: on the left of the last operator, and after it. -/
structure BracketSets where
  isNegated : Bool
  left : Option (CharSet × SetOperator)
  items : CharSet
deriving DecidableEq, Repr

namespace BracketSets

/-- One more set after the last operator. -/
def add (b : BracketSets) (s : CharSet) : BracketSets := { b with items := .union b.items s }

/-- The set at both sides of the last operator. -/
def joined (b : BracketSets) : Reading CharSet := do
  match b.left with
  | none => return b.items
  | some (left, op) => return op.apply (← foldCase left) (← foldCase b.items)

/-- An operator follows. -/
def operator (b : BracketSets) (op : SetOperator) : Reading BracketSets :=
  return { b with left := some (← b.joined, op), items := .empty }

/-- The bracket is closed. -/
def close (b : BracketSets) : Reading CharSet := do
  let s ← foldCase (← b.joined)
  toAsciiLimit (if b.isNegated then .compl s else s)

end BracketSets

/-- The named set at the start of a text such as `[:digit:]`, of which the opening bracket is gone,
and what follows it. -/
def namedSet? : List Char → Option (CharSet × List Char)
  | ':' :: rest =>
    let (isNegated, rest) := match rest with
      | '^' :: rest => (true, rest)
      | _ => (false, rest)
    match rest.dropWhile (· ≠ ':') with
    | ':' :: ']' :: after =>
      (CharSet.named? (.ofList (rest.takeWhile (· ≠ ':')))).map fun s =>
        (if isNegated then .compl s else s, after)
    | _ => none
  | _ => none

/-- The signs at the start of a bracket that stand for themselves. -/
def leadingSigns : Nat → CharSet → Reading CharSet
  | 0, s => return s
  | steps + 1, s => do
    skipSpace
    match ← getRest with
    | '-' :: rest => goOn rest; leadingSigns steps (.union s (.ofChar '-'))
    | ']' :: rest =>
      if s = .empty then goOn rest; return .ofChar ']'
      else return s
    | _ => return s

/-- The start of a bracket: whether it is negated, and the signs that stand for themselves. -/
def bracketStart : Reading BracketSets := do
  skipSpace
  let isNegated := (← getRest).head? = some '^'
  if isNegated then goOn ((← getRest).drop 1)
  return ⟨isNegated, none, ← leadingSigns ((← getRest).length + 1) .empty⟩

/-- The character that follows the next one, as a range sees it: white space and the sign that
starts a comment are passed over. -/
def afterNext? (spaced : Bool) (rest : List Char) : Option Char :=
  if spaced then
    match dropBlank (rest.drop 1) with
    | '#' :: rest => (dropBlank rest).head?
    | rest => rest.head?
  else (rest.drop 1).head?

/-- An element of a bracket. -/
def bracketElement : Reading Element := do
  let c ← next
  if c = '\\' then Element.escaped else return .char c false

/-- A range of a bracket, or one element. A minus sign at the end of the bracket, or before another
one, does not make a range. -/
def bracketRange : Reading CharSet := do
  let e ← bracketElement
  skipSpace
  match ← getRest with
  | '-' :: rest =>
    let after := afterNext? (← getFlags).spaced ('-' :: rest)
    if after = some ']' ∨ after = some '-' then e.toSet
    else
      goOn rest
      skipSpace
      let first ← e.toChar
      let last ← (← bracketElement).toChar
      if first ≤ last then return .range first.toNat last.toNat else failure
  | _ => e.toSet

/-- The set of a bracket. -/
def bracketBody : Nat → BracketSets → Reading CharSet
  | 0, _ => failure
  | steps + 1, b => do
    skipSpace
    match ← getRest with
    | ']' :: rest => goOn rest; b.close
    | '[' :: rest =>
      match namedSet? rest with
      | some (s, rest) => goOn rest; bracketBody steps (b.add (← toAsciiLimit s))
      | none =>
        goOn rest
        let inner ← bracketBody steps (← bracketStart)
        bracketBody steps (b.add inner)
    | rest =>
      match SetOperator.ofStart? rest with
      | some (op, rest) => goOn rest; bracketBody steps (← b.operator op)
      | none => bracketBody steps (b.add (← bracketRange))

/-- The set in brackets, from behind the opening one on. -/
def bracket : Reading CharSet := do
  let steps := (← getRest).length + 1
  bracketBody steps (← bracketStart)

end RemoteConsole.Text.Pattern
