import RemoteConsole.Text.Digit

/-!
# Percent encoding

* `percentEncode`: the bytes of the characters of a set, and of all characters beyond ASCII, are
  written in hexadecimal.
* `percentDecode`: the bytes of a text in which bytes may be written in hexadecimal.
* `formEncode`: the encoding of the values of a form.
-/

namespace RemoteConsole.Url

/-- A hexadecimal digit in capitals. -/
def capitalHex (n : Nat) : Char := Char.ofNat (if n < 10 then 48 + n else 55 + n)

/-- A byte in hexadecimal. -/
def percentByte (b : UInt8) : List Char :=
  ['%', capitalHex (b.toNat / 16), capitalHex (b.toNat % 16)]

/-- The bytes of a character in hexadecimal. -/
def percentChar (c : Char) : List Char := (String.singleton c).toUTF8.toList.flatMap percentByte

/-! ## Sets -/

/-- Controls, and all that is not ASCII. -/
def isControl (c : Char) : Bool := c.toNat < 0x20 || 0x7f ≤ c.toNat

/-- The characters that a fragment does not hold. -/
def inFragmentSet (c : Char) : Bool := isControl c || [' ', '"', '<', '>', '\x60'].contains c

/-- The characters that a query does not hold. -/
def inQuerySet (c : Char) : Bool := isControl c || [' ', '"', '#', '<', '>'].contains c

/-- The characters that the query of a web address does not hold. -/
def inSpecialQuerySet (c : Char) : Bool := inQuerySet c || c = '\''

/-- The characters that a path does not hold. -/
def inPathSet (c : Char) : Bool := inFragmentSet c || ['#', '?', '\x7b', '\x7d'].contains c

/-- The characters that a user name does not hold. -/
def inUserSet (c : Char) : Bool :=
  inPathSet c || ['/', ':', ';', '=', '@', '[', '\\', ']', '^', '|'].contains c

/-! ## Coding -/

/-- The characters of the set are written in hexadecimal. -/
def percentEncode (inSet : Char → Bool) (cs : List Char) : String :=
  String.ofList (cs.flatMap fun c => if inSet c then percentChar c else [c])

/-- The bytes of a text in which bytes may be written in hexadecimal. -/
def percentDecode : List Char → List UInt8
  | [] => []
  | [c] => (String.singleton c).toUTF8.toList
  | [c, d] => (String.singleton c).toUTF8.toList ++ percentDecode [d]
  | c :: d :: e :: rest =>
    if c = '%' then
      match Text.hexValue? d, Text.hexValue? e with
      | some x, some y => .ofNat (16 * x + y) :: percentDecode rest
      | _, _ => 0x25 :: percentDecode (d :: e :: rest)
    else (String.singleton c).toUTF8.toList ++ percentDecode (d :: e :: rest)

/-- The byte stands for itself in a form. -/
def isFormByte (b : UInt8) : Bool :=
  let c := Char.ofNat b.toNat
  b < 0x80 && (c.isAlphanum || ['*', '-', '.', '_'].contains c)

/-- A value of a form. -/
def formEncode (s : String) : String :=
  String.ofList (s.toUTF8.toList.flatMap fun b =>
    if b = 0x20 then ['+']
    else if isFormByte b then [Char.ofNat b.toNat]
    else percentByte b)

end RemoteConsole.Url
