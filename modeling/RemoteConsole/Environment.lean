/-!
# Variables of the environment

`Environment` lists the variables that are set to a text, and `Environment.parseWord` reads a
number of 64 bits from a text.
-/

namespace RemoteConsole

/-- The variables that are set to a text. -/
abbrev Environment := List (String × String)

namespace Environment

/-- The text that a variable is set to. -/
def get? (env : Environment) (name : String) : Option String :=
  (env.find? (·.1 = name)).map (·.2)

/-- Why a text is no number of 64 bits. -/
inductive WordError where
  | empty
  | invalidDigit
  | tooLarge
deriving DecidableEq, Repr

/-- The error as a line of text. -/
def WordError.text : WordError → String
  | .empty => "cannot parse integer from empty string"
  | .invalidDigit => "invalid digit found in string"
  | .tooLarge => "number too large to fit in target type"

/-- The number of the digits after those that stand for `n`. -/
def digits : Nat → List Char → Except WordError Nat
  | n, [] => .ok n
  | n, c :: rest =>
    if c.isDigit then
      let n := n * 10 + (c.toNat - 48)
      if n ≤ 0xffffffffffffffff then digits n rest else .error .tooLarge
    else .error .invalidDigit

/-- The number of 64 bits that a text of digits stands for; a plus sign may come first. -/
def parseWord (s : String) : Except WordError Nat :=
  match s.toList with
  | [] => .error .empty
  | ['+'] => .error .invalidDigit
  | '+' :: rest => digits 0 rest
  | cs => digits 0 cs

end Environment

end RemoteConsole
