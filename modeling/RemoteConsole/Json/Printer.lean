import RemoteConsole.Decimal.Shortest
import RemoteConsole.Json.Basic

/-!
# Writing JSON

* `Json.compact`: the text of a value without blanks.
* `Json.pretty`: the text with an indentation of two blanks for each level; an empty array or
  object stays on one line.
* `floatText`: the shortest decimal that reads back as the same double, with a point when its
  exponent is small and in scientific form otherwise.
* `quote`: a string literal. A quote, a backslash and the control characters are escaped, and
  nothing else is.
-/

namespace RemoteConsole.Json

/-! ## Numbers -/

/-- The exponents between which a double is written without an exponent: at most `widest`
digits before the point, and less than `deepest` zeros after it. -/
structure FloatLayout where
  widest : Nat
  deepest : Nat

/-- Up to 16 digits stand before the point, and up to four zeros after it. -/
def floatLayout : FloatLayout := ⟨16, 5⟩

/-- The text of `digits * 10 ^ exponent` in the layout. -/
def decimalText (layout : FloatLayout) (d : Decimal) : String :=
  let digits := toString d.digits
  let point : Int := digits.length + d.exponent
  if 0 ≤ d.exponent ∧ point ≤ layout.widest then
    digits ++ String.ofList (List.replicate d.exponent.toNat '0') ++ ".0"
  else if 0 < point ∧ point ≤ layout.widest then
    let cs := digits.toList
    String.ofList (cs.take point.toNat ++ '.' :: cs.drop point.toNat)
  else if -(layout.deepest : Int) < point ∧ point ≤ 0 then
    "0." ++ String.ofList (List.replicate (-point).toNat '0') ++ digits
  else
    let mark := if 0 < point then "e+" else "e-"
    let exponent := mark ++ toString (point - 1).natAbs
    match digits.toList with
    | [] => exponent
    | [c] => String.ofList [c] ++ exponent
    | c :: cs => String.ofList (c :: '.' :: cs) ++ exponent

/-- The text of a finite double. -/
def floatText (f : Float) : String :=
  let bits := f.toBits
  let sign := if bits >>> 63 = 1 then "-" else ""
  let x := Decimal.Binary.ofBits bits
  sign ++ (if x.mantissa = 0 then "0.0" else decimalText floatLayout x.shortest)

/-- The text of a number. -/
def Number.text : Number → String
  | .integer n => toString n
  | .float f => floatText f

/-! ## Strings -/

/-- The hexadecimal digit for a number below sixteen. -/
def hexDigit (n : Nat) : Char := Char.ofNat (if n < 10 then 48 + n else 87 + n)

/-- How a character stands in a string literal. -/
def escape (c : Char) : List Char :=
  if c = '"' then ['\\', '"']
  else if c = '\\' then ['\\', '\\']
  else if c = '\n' then ['\\', 'n']
  else if c = '\r' then ['\\', 'r']
  else if c = '\t' then ['\\', 't']
  else if c = '\x08' then ['\\', 'b']
  else if c = '\x0c' then ['\\', 'f']
  else if c.toNat < 0x20 then ['\\', 'u', '0', '0', hexDigit (c.toNat / 16), hexDigit (c.toNat % 16)]
  else [c]

/-- The string literal of a text. -/
def quote (s : String) : String := "\"" ++ String.ofList (s.toList.flatMap escape) ++ "\""

/-! ## Values -/

mutual

/-- The text of the value without blanks. -/
def compact : Json → String
  | .null => "null"
  | .bool b => if b then "true" else "false"
  | .number n => n.text
  | .string s => quote s
  | .array items => "[" ++ compactItems items ++ "]"
  | .object members => "\x7b" ++ compactMembers members ++ "\x7d"

/-- The items, separated by commas. -/
def compactItems : List Json → String
  | [] => ""
  | [v] => compact v
  | v :: w :: rest => compact v ++ "," ++ compactItems (w :: rest)

/-- The members, separated by commas. -/
def compactMembers : List (String × Json) → String
  | [] => ""
  | [(k, v)] => quote k ++ ":" ++ compact v
  | (k, v) :: m :: rest => quote k ++ ":" ++ compact v ++ "," ++ compactMembers (m :: rest)

end

/-- The start of a line at a depth of nesting. -/
def indent (depth : Nat) : String := "\n" ++ String.ofList (List.replicate (2 * depth) ' ')

mutual

/-- The indented text of a value that stands at a depth of nesting. -/
def prettyAt (depth : Nat) : Json → String
  | .array [] => "[]"
  | .array (v :: rest) => "[" ++ prettyItems (depth + 1) (v :: rest) ++ indent depth ++ "]"
  | .object [] => "\x7b\x7d"
  | .object (m :: rest) => "\x7b" ++ prettyMembers (depth + 1) (m :: rest) ++ indent depth ++ "\x7d"
  | .null => "null"
  | .bool b => if b then "true" else "false"
  | .number n => n.text
  | .string s => quote s

/-- The items, each on lines of its own. -/
def prettyItems (depth : Nat) : List Json → String
  | [] => ""
  | [v] => indent depth ++ prettyAt depth v
  | v :: w :: rest => indent depth ++ prettyAt depth v ++ "," ++ prettyItems depth (w :: rest)

/-- The members, each on lines of its own. -/
def prettyMembers (depth : Nat) : List (String × Json) → String
  | [] => ""
  | [(k, v)] => indent depth ++ quote k ++ ": " ++ prettyAt depth v
  | (k, v) :: m :: rest =>
    indent depth ++ quote k ++ ": " ++ prettyAt depth v ++ "," ++ prettyMembers depth (m :: rest)

end

/-- The indented text of the value. -/
def pretty (v : Json) : String := prettyAt 0 v

end RemoteConsole.Json
