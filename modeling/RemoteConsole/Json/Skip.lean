import RemoteConsole.Json.Reader

/-!
# Passing over JSON

`Cursor.skipValue` passes over a value that nobody asked for. It looks at the form only: there is
no bound on the nesting, numbers have no size, and escapes are not put together.
-/

namespace RemoteConsole.Json.Cursor

/-! ## Numbers and strings -/

/-- Past an exponent, from its letter on. -/
def skipExponent (c : Cursor) : Except Flaw Cursor :=
  let c := c.advance
  let c := match c.rest with
    | '+' :: _ => c.advance
    | '-' :: _ => c.advance
    | _ => c
  if c.digit?.isSome then .ok c.skipDigits else c.failNext .invalidNumber

/-- Past an exponent, if there is one. -/
def skipAnyExponent (c : Cursor) : Except Flaw Cursor :=
  match c.rest with
  | 'e' :: _ => c.skipExponent
  | 'E' :: _ => c.skipExponent
  | _ => .ok c

/-- Past what follows the digits before the point. -/
def skipFraction (c : Cursor) : Except Flaw Cursor :=
  match c.rest with
  | '.' :: _ =>
    if c.advance.digit?.isSome then c.advance.skipDigits.skipAnyExponent
    else c.advance.failNext .invalidNumber
  | _ => c.skipAnyExponent

/-- Past a number without its sign. -/
def skipUnsigned (c : Cursor) : Except Flaw Cursor :=
  match c.digit? with
  | some 0 =>
    if c.advance.digit?.isSome then c.advance.failNext .invalidNumber else c.advance.skipFraction
  | some _ => c.skipDigits.skipFraction
  | none => c.failNext .invalidNumber

/-- Past an escape, after its backslash. -/
def skipEscape (c : Cursor) : Except Flaw Cursor :=
  match c.rest with
  | [] => c.fail .endInString
  | 'u' :: _ => do return (← c.advance.hexEscape).2
  | x :: _ => if (shortEscape x).isSome then .ok c.advance else c.failNext .invalidEscape

/-- Past the rest of a string. -/
def skipChars : Nat → Cursor → Except Flaw Cursor
  | 0, c => c.fail .endInString
  | steps + 1, c =>
    match c.rest with
    | [] => c.fail .endInString
    | '"' :: _ => .ok c.advance
    | '\\' :: _ => do skipChars steps (← c.advance.skipEscape)
    | x :: _ => if x.toNat < 0x20 then c.fail .controlCharacter else skipChars steps c.advance

/-- Past a string, after its opening quote. -/
def skipString (c : Cursor) : Except Flaw Cursor := skipChars (c.rest.length + 1) c

/-! ## Values -/

/-- Past a key, which has to follow, and its colon. -/
def skipKey (c : Cursor) : Except Flaw Cursor :=
  let c := c.skipBlanks
  match c.rest with
  | [] => c.failNext .endInObject
  | '"' :: _ => do (← c.advance.skipString).colon
  | _ => c.failNext .keyMustBeString

mutual

/-- Past a value. -/
def skipValueIn : Nat → Cursor → Except Flaw Cursor
  | 0, c => c.fail .endInValue
  | steps + 1, c =>
    let c := c.skipBlanks
    match c.rest with
    | [] => c.failNext .endInValue
    | 'n' :: _ => c.advance.literal ['u', 'l', 'l']
    | 't' :: _ => c.advance.literal ['r', 'u', 'e']
    | 'f' :: _ => c.advance.literal ['a', 'l', 's', 'e']
    | '-' :: _ => c.advance.skipUnsigned
    | '"' :: _ => c.advance.skipString
    | '[' :: _ => skipItems steps true c.advance
    | '{' :: _ => skipMembers steps true c.advance
    | x :: _ => if x.isDigit then c.skipUnsigned else c.failNext .expectedValue

/-- Past the items of an array up to its end. -/
def skipItems : Nat → Bool → Cursor → Except Flaw Cursor
  | 0, _, c => c.fail .endInList
  | steps + 1, first, c =>
    let c := c.skipBlanks
    match c.rest with
    | [] => c.failNext .endInList
    | ']' :: _ => .ok c.advance
    | x :: _ =>
      if first then do skipItems steps false (← skipValueIn steps c)
      else if x = ',' then do skipItems steps false (← skipValueIn steps c.advance)
      else c.failNext .expectedListCommaOrEnd

/-- Past the members of an object up to its end. -/
def skipMembers : Nat → Bool → Cursor → Except Flaw Cursor
  | 0, _, c => c.fail .endInObject
  | steps + 1, first, c =>
    let c := c.skipBlanks
    match c.rest with
    | [] => c.failNext .endInObject
    | '}' :: _ => .ok c.advance
    | x :: _ =>
      if first then do skipMembers steps false (← skipValueIn steps (← c.skipKey))
      else if x = ',' then do skipMembers steps false (← skipValueIn steps (← c.advance.skipKey))
      else c.failNext .expectedObjectCommaOrEnd

end

/-- Past a value. -/
def skipValue (c : Cursor) : Except Flaw Cursor := skipValueIn c.steps c

end RemoteConsole.Json.Cursor
