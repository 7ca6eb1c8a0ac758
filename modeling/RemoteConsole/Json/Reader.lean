import RemoteConsole.Json.Cursor

/-!
# Reading JSON

* `Json.parse`: the value of a text, or the first flaw of the text. The members of an object come
  out in the order of their keys, and a repeated key keeps its last value.
* `Cursor.string`, `Cursor.number`, `Cursor.value`: the readers of the parts, which
  answer with the cursor after the part.

Arrays and objects may be nested 127 deep. The readers take a bound on the number of their steps
that the length of the text provides.
-/

namespace RemoteConsole.Json

/-! ## Numbers -/

/-- The largest number whose digits are all kept. -/
def digitLimit : Nat := 0xffffffffffffffff

/-- The double `digits * 10 ^ exponent`, by steps of at most 308 powers of ten, with its sign. -/
def scaled (positive : Bool) (digits : Nat) (exponent : Int) : Option Float :=
  (go 8 (Float.ofNat digits) exponent).map fun f => if positive then f else -f
where
  go : Nat → Float → Int → Option Float
    | 0, f, _ => some f
    | steps + 1, f, exponent =>
      if exponent.natAbs ≤ 308 then
        let power := Float.ofScientific 1 false exponent.natAbs
        if 0 ≤ exponent then
          if (f * power).isInf then none else some (f * power)
        else some (f / power)
      else if f == 0.0 then some f
      else if 0 ≤ exponent then none
      else go steps (f / Float.ofScientific 1 false 308) (exponent + 308)

/-- A number that has been read, and the cursor after it. -/
abbrev Numeral := Except Flaw (Number × Cursor)

namespace Cursor

/-- The double that the digits before the cursor stand for. -/
def scaledNumber (c : Cursor) (positive : Bool) (digits : Nat) (exponent : Int) : Numeral :=
  match scaled positive digits exponent with
  | some f => .ok (.float f, c)
  | none => c.fail .numberOutOfRange

/-- The largest size of an exponent that is told apart. -/
def exponentLimit : Nat := 0x7fffffff

/-- An exponent of 32 bits, cut off at both ends. -/
def clampExponent (e : Int) : Int :=
  if e < -0x80000000 then -0x80000000 else if 0x7fffffff < e then 0x7fffffff else e

/-- The rest of an exponent whose size so far is `size`. -/
def exponentDigits (positive : Bool) (digits : Nat) (start : Int) (raises : Bool) :
    Nat → Nat → Cursor → Numeral
  | 0, _, c => c.fail .invalidNumber
  | steps + 1, size, c =>
    match c.digit? with
    | some d =>
      if exponentLimit < size * 10 + d then
        if digits ≠ 0 && raises then c.advance.fail .numberOutOfRange
        else .ok (.float (if positive then 0.0 else -0.0), c.skipDigits)
      else exponentDigits positive digits start raises steps (size * 10 + d) c.advance
    | none =>
      c.scaledNumber positive digits (clampExponent (if raises then start + size else start - size))

/-- An exponent, from its letter on. -/
def exponent (positive : Bool) (digits : Nat) (start : Int) (c : Cursor) : Numeral :=
  let c := c.advance
  let (raises, c) := match c.rest with
    | '+' :: _ => (true, c.advance)
    | '-' :: _ => (false, c.advance)
    | _ => (true, c)
  match c.digit?, c.rest with
  | some d, _ => exponentDigits positive digits start raises (c.rest.length + 1) d c.advance
  | none, [] => c.fail .endInValue
  | none, _ => c.failNext .invalidNumber

/-- What follows the digits of a number with a fraction. -/
def afterFraction (positive : Bool) (digits : Nat) (exponent : Int) (c : Cursor) : Numeral :=
  match c.rest with
  | 'e' :: _ => c.exponent positive digits exponent
  | 'E' :: _ => c.exponent positive digits exponent
  | _ => c.scaledNumber positive digits exponent

/-- The digits of a fraction; those that do not fit are passed over. -/
def fractionDigits (positive : Bool) (start : Int) : Nat → Nat → Nat → Cursor → Numeral
  | 0, _, _, c => c.fail .invalidNumber
  | steps + 1, digits, places, c =>
    match c.digit? with
    | some d =>
      if digitLimit < digits * 10 + d then
        c.skipDigits.afterFraction positive digits (start - places)
      else fractionDigits positive start steps (digits * 10 + d) (places + 1) c.advance
    | none =>
      if places = 0 then
        if c.rest.isEmpty then c.failNext .endInValue else c.failNext .invalidNumber
      else c.afterFraction positive digits (start - places)

/-- A fraction, from its point on. -/
def fraction (positive : Bool) (digits : Nat) (start : Int) (c : Cursor) : Numeral :=
  fractionDigits positive start (c.rest.length + 1) digits 0 c.advance

/-- The digits before the point that no longer fit count as powers of ten. -/
def longInteger (positive : Bool) (digits : Nat) : Nat → Nat → Cursor → Numeral
  | 0, _, c => c.fail .invalidNumber
  | steps + 1, dropped, c =>
    match c.rest with
    | '.' :: _ => c.fraction positive digits dropped
    | 'e' :: _ => c.exponent positive digits dropped
    | 'E' :: _ => c.exponent positive digits dropped
    | _ =>
      match c.digit? with
      | some _ => longInteger positive digits steps (dropped + 1) c.advance
      | none => c.scaledNumber positive digits dropped

/-- What follows digits that all fit. -/
def afterInteger (positive : Bool) (digits : Nat) (c : Cursor) : Numeral :=
  match c.rest with
  | '.' :: _ => c.fraction positive digits 0
  | 'e' :: _ => c.exponent positive digits 0
  | 'E' :: _ => c.exponent positive digits 0
  | _ =>
    if positive then .ok (.integer digits, c)
    else if digits = 0 ∨ 0x8000000000000000 < digits then .ok (.float (-(Float.ofNat digits)), c)
    else .ok (.integer (-digits), c)

/-- The digits before the point. -/
def integerDigits (positive : Bool) : Nat → Nat → Cursor → Numeral
  | 0, _, c => c.fail .invalidNumber
  | steps + 1, digits, c =>
    match c.digit? with
    | some d =>
      if digitLimit < digits * 10 + d then longInteger positive digits (c.rest.length + 1) 0 c
      else integerDigits positive steps (digits * 10 + d) c.advance
    | none => c.afterInteger positive digits

/-- A number without its sign; a zero stands alone before the point. -/
def unsigned (positive : Bool) (c : Cursor) : Numeral :=
  match c.digit?, c.rest with
  | some 0, _ =>
    if c.advance.digit?.isSome then c.advance.failNext .invalidNumber
    else c.advance.afterInteger positive 0
  | some d, _ => integerDigits positive (c.rest.length + 1) d c.advance
  | none, [] => c.fail .endInValue
  | none, _ => c.failNext .invalidNumber

/-- A number. -/
def number (c : Cursor) : Numeral :=
  match c.rest with
  | '-' :: _ => c.advance.unsigned false
  | _ => c.unsigned true

/-! ## Strings -/

/-- The character for the letter of a short escape. -/
def shortEscape : Char → Option Char
  | '"' => some '"'
  | '\\' => some '\\'
  | '/' => some '/'
  | 'b' => some '\x08'
  | 'f' => some '\x0c'
  | 'n' => some '\n'
  | 'r' => some '\r'
  | 't' => some '\t'
  | _ => none

/-- The second half of a pair of escapes whose first half is `high`. -/
def lowSurrogate (high : Nat) (c : Cursor) : Except Flaw (Char × Cursor) :=
  match c.rest with
  | [] => c.fail .endInString
  | '\\' :: _ =>
    let c := c.advance
    match c.rest with
    | [] => c.fail .endInString
    | 'u' :: _ => do
      let (low, c) ← c.advance.hexEscape
      if 0xdc00 ≤ low ∧ low ≤ 0xdfff then
        .ok (Char.ofNat ((high - 0xd800) * 0x400 + (low - 0xdc00) + 0x10000), c)
      else c.fail .loneSurrogate
    | _ => c.failNext .endOfHexEscape
  | _ => c.failNext .endOfHexEscape

/-- An escape, after its backslash. -/
def escaped (c : Cursor) : Except Flaw (Char × Cursor) :=
  match c.rest with
  | [] => c.fail .endInString
  | 'u' :: _ => do
    let (n, c) ← c.advance.hexEscape
    if 0xdc00 ≤ n ∧ n ≤ 0xdfff then c.fail .loneSurrogate
    else if 0xd800 ≤ n ∧ n ≤ 0xdbff then c.lowSurrogate n
    else .ok (Char.ofNat n, c)
  | x :: _ =>
    match shortEscape x with
    | some y => .ok (y, c.advance)
    | none => c.failNext .invalidEscape

/-- The characters of a string up to its closing quote, after those already read, last first. -/
def stringChars : Nat → List Char → Cursor → Except Flaw (String × Cursor)
  | 0, _, c => c.fail .endInString
  | steps + 1, read, c =>
    match c.rest with
    | [] => c.fail .endInString
    | '"' :: _ => .ok (String.ofList read.reverse, c.advance)
    | '\\' :: _ => do
      let (x, c) ← c.advance.escaped
      stringChars steps (x :: read) c
    | x :: _ =>
      if x.toNat < 0x20 then c.failNext .controlCharacter
      else stringChars steps (x :: read) c.advance

/-- A string, after its opening quote. -/
def string (c : Cursor) : Except Flaw (String × Cursor) := stringChars (c.rest.length + 1) [] c

/-! ## Values -/

/-- Past the colon after a key. -/
def colon (c : Cursor) : Except Flaw Cursor :=
  let c := c.skipBlanks
  match c.rest with
  | ':' :: _ => .ok c.advance
  | [] => c.failNext .endInObject
  | _ => c.failNext .expectedColon

/-- At the next item of an array, or none after the last; `first` says that none came before. -/
def nextItem (first : Bool) (c : Cursor) : Except Flaw (Option Cursor) :=
  let c := c.skipBlanks
  match c.rest with
  | [] => c.failNext .endInList
  | ']' :: _ => .ok none
  | x :: _ =>
    if first then .ok (some c)
    else if x = ',' then
      let c := c.advance.skipBlanks
      match c.rest with
      | [] => c.failNext .endInValue
      | ']' :: _ => c.failNext .trailingComma
      | _ => .ok (some c)
    else c.failNext .expectedListCommaOrEnd

/-- After the opening quote of the next key, or none after the last member. -/
def nextKey (first : Bool) (c : Cursor) : Except Flaw (Option Cursor) :=
  let c := c.skipBlanks
  match c.rest with
  | [] => c.failNext .endInObject
  | '}' :: _ => .ok none
  | x :: _ =>
    if first then
      if x = '"' then .ok (some c.advance) else c.failNext .keyMustBeString
    else if x = ',' then
      let c := c.advance.skipBlanks
      match c.rest with
      | [] => c.failNext .endInValue
      | '"' :: _ => .ok (some c.advance)
      | '}' :: _ => c.failNext .trailingComma
      | _ => c.failNext .keyMustBeString
    else c.failNext .expectedObjectCommaOrEnd

mutual

/-- A value that may hold arrays and objects nested `depth - 1` deep. -/
def value (depth : Nat) : Nat → Cursor → Except Flaw (Json × Cursor)
  | 0, c => c.fail .endInValue
  | steps + 1, c =>
    let c := c.skipBlanks
    match c.rest with
    | [] => c.failNext .endInValue
    | 'n' :: _ => do return (.null, ← c.advance.literal ['u', 'l', 'l'])
    | 't' :: _ => do return (.bool true, ← c.advance.literal ['r', 'u', 'e'])
    | 'f' :: _ => do return (.bool false, ← c.advance.literal ['a', 'l', 's', 'e'])
    | '"' :: _ => do
      let (s, c) ← c.advance.string
      return (.string s, c)
    | '[' :: _ =>
      if depth ≤ 1 then c.failNext .tooDeep else items (depth - 1) steps [] c.advance
    | '{' :: _ =>
      if depth ≤ 1 then c.failNext .tooDeep else members (depth - 1) steps true [] c.advance
    | x :: _ =>
      if x = '-' || x.isDigit then do
        let (n, c) ← c.number
        return (.number n, c)
      else c.failNext .expectedValue

/-- The items of an array up to its end, after those already read, last first. -/
def items (depth : Nat) : Nat → List Json → Cursor → Except Flaw (Json × Cursor)
  | 0, _, c => c.fail .endInList
  | steps + 1, read, c => do
    match ← c.nextItem read.isEmpty with
    | none => return (.array read.reverse, c.skipBlanks.advance)
    | some c =>
      let (v, c) ← value depth steps c
      items depth steps (v :: read) c

/-- The members of an object up to its end, after those already read. -/
def members (depth : Nat) :
    Nat → Bool → List (String × Json) → Cursor → Except Flaw (Json × Cursor)
  | 0, _, _, c => c.fail .endInObject
  | steps + 1, first, read, c => do
    match ← c.nextKey first with
    | none => return (.object read, c.skipBlanks.advance)
    | some c =>
      let (key, c) ← c.string
      let c ← c.colon
      let (v, c) ← value depth steps c
      members depth steps false (insertMember key v read) c

end

/-- Nothing but blanks is left. -/
def finished (c : Cursor) : Except Flaw Unit :=
  let c := c.skipBlanks
  if c.rest.isEmpty then .ok () else c.failNext .trailingCharacters

/-- A number of steps that reading the rest of the text does not exceed. -/
def steps (c : Cursor) : Nat := 2 * c.rest.length + 4

end Cursor

/-- The depth at which a nested value is refused. -/
def depthLimit : Nat := 128

/-- The value of a text. -/
def parse (text : String) : Except Flaw Json := do
  let c := Cursor.ofString text
  let (v, c) ← c.value depthLimit c.steps
  c.finished
  return v

end RemoteConsole.Json
