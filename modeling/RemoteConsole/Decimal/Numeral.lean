import RemoteConsole.Text.Blank

/-!
# Texts that are numbers

`isNumeral`: a text is the whole spelling of a number: digits with a point and an exponent, or the
name of an infinity or of what is no number.
-/

namespace RemoteConsole.Decimal

/-- The characters after a sign, if there is one. -/
def afterSign : List Char → List Char
  | '+' :: cs => cs
  | '-' :: cs => cs
  | cs => cs

/-- There are digits, and nothing else. -/
def areDigits (cs : List Char) : Bool := !cs.isEmpty && cs.all Char.isDigit

/-- An exponent, or nothing. -/
def isExponent : List Char → Bool
  | [] => true
  | c :: cs => (c = 'e' || c = 'E') && areDigits (afterSign cs)

/-- Digits on one side of a point at least, and what may follow them. -/
def isPlain (cs : List Char) : Bool :=
  let whole := cs.takeWhile Char.isDigit
  match cs.drop whole.length with
  | '.' :: rest =>
    let fraction := rest.takeWhile Char.isDigit
    !(whole.isEmpty && fraction.isEmpty) && isExponent (rest.drop fraction.length)
  | rest => !whole.isEmpty && isExponent rest

/-- The text is the spelling of a number. -/
def isNumeral (s : String) : Bool :=
  let cs := afterSign s.toList
  let name := Text.lowerAscii (.ofList cs)
  name = "inf" || name = "infinity" || name = "nan" || isPlain cs

/-- A point needs a digit at one side. -/
example : ["1", "-01", "1.", ".5", "1.e5", "+1E-5", "iNf", ".", "1e", "e5", "-", "", "1_0"].map
    isNumeral = [true, true, true, true, true, true, true, false, false, false, false, false, false]
    := by decide +kernel

end RemoteConsole.Decimal
