import RemoteConsole.Text.Digit
import RemoteConsole.Text.Pattern.Reading

/-!
# Escapes of patterns

* `Element`: the smallest parts of a pattern: a character, a set, or an assertion.
* `Element.escaped`: the element after a backslash.
* `Element.toSet`: the set that an element is within brackets.
-/

namespace RemoteConsole.Text.Pattern

/-- A smallest part of a pattern. A character may be given as a byte. -/
inductive Element where
  | char (c : Char) (isByte : Bool)
  | set (s : CharSet)
  | assertion (a : Assertion)
deriving DecidableEq, Repr

/-- A number of hexadecimal digits, of which the first stand for `n`. -/
def hexDigits : Nat → Nat → Reading Nat
  | 0, n => do skipSpace; return n
  | count + 1, n => do
    skipSpace
    let d ← need (hexValue? (← next))
    hexDigits count (16 * n + d)

/-- The character with a number of so many hexadecimal digits. -/
def hexChar (digits : Nat) : Reading Element := do
  let n ← hexDigits digits 0
  if n.isValidChar then return .char (.ofNat n) (digits = 2) else failure

/-- A set that is known for ASCII only. -/
def asciiSet (s : CharSet) : Reading Element := do
  if (← getFlags).unicode then failure else return .set s

/-- An assertion on words, which are known for ASCII only. -/
def asciiAssertion (a : Assertion) : Reading Element := do
  if (← getFlags).unicode then failure else return .assertion a

/-- A sign of ASCII that stands for itself after a backslash. -/
def isSign (c : Char) : Bool := c.toNat < 0x80 && !c.isAlphanum && c ≠ '<' && c ≠ '>'

namespace Element

/-- The element after a backslash. -/
def escaped : Reading Element := do
  let c ← next
  match c with
  | 'x' => hexChar 2
  | 'u' => hexChar 4
  | 'U' => hexChar 8
  | 'd' => asciiSet .digits
  | 's' => asciiSet .space
  | 'w' => asciiSet .word
  | 'a' => return .char '\x07' false
  | 'f' => return .char '\x0c' false
  | 't' => return .char '\t' false
  | 'n' => return .char '\n' false
  | 'r' => return .char '\r' false
  | 'v' => return .char '\x0b' false
  | 'A' => return .assertion .start
  | 'z' => return .assertion .finish
  | 'b' => asciiAssertion .wordEdge
  | 'B' => asciiAssertion .noWordEdge
  | '<' => asciiAssertion .wordStart
  | '>' => asciiAssertion .wordEnd
  | c => if isSign c then return .char c false else failure

/-- The character of an element of a bracket. Where ASCII alone is meant, it must be of ASCII. -/
def toChar : Element → Reading Char
  | char c _ => do if (← getFlags).unicode || c.toNat < 0x80 then return c else failure
  | _ => failure

/-- The set that an element of a bracket is. -/
def toSet : Element → Reading CharSet
  | set s => return s
  | e => return .ofChar (← e.toChar)

/-- The pattern of an element outside of brackets. Where ASCII alone is meant, no byte may go
beyond it. -/
def toPattern : Element → Reading Pattern
  | char c isByte => do
    if isByte && !(← getFlags).unicode && 0x80 ≤ c.toNat then failure
    return .one (← foldCase (.ofChar c))
  | set s => return .one s
  | assertion a => return .assertion a

end Element

end RemoteConsole.Text.Pattern
