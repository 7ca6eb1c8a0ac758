import RemoteConsole.Text.Digit

/-!
# Tables of characters

A table is written as lines of words. Each word begins with the characters it is about, by their
code points in hexadecimal: `AD` is one character, `300-314` a range, and `100-12E:2` every second
character of a range. What may follow is told by the table.

* `Span`: the characters that a word is about.
* `takeSpan`: the span at the start of a word, and what follows it.
* `spans`: the spans of a table whose words hold nothing else.
* `charList`: the characters of a list such as `41.300`.
-/

namespace RemoteConsole.Text

/-- The characters from the first to the last, in steps. -/
structure Span where
  first : Nat
  last : Nat
  step : Nat
deriving DecidableEq, Repr

/-- The character is one of the span. -/
def Span.contains (s : Span) (c : Char) : Bool :=
  s.first ≤ c.toNat && c.toNat ≤ s.last && (c.toNat - s.first) % s.step = 0

/-- The character is one of the spans. -/
def isIn (ss : List Span) (c : Char) : Bool := ss.any (·.contains c)

/-- The words of a table. -/
def words (lines : List String) : List (List Char) :=
  (lines.flatMap (·.splitOn " ")).map String.toList

/-- The number after the digits at the start of a text, and what follows them. -/
def takeHexFrom (n : Nat) : List Char → Nat × List Char
  | [] => (n, [])
  | c :: rest =>
    match hexValue? c with
    | some d => takeHexFrom (16 * n + d) rest
    | none => (n, c :: rest)

/-- The number at the start of a text, and what follows it. -/
def takeHex (cs : List Char) : Nat × List Char := takeHexFrom 0 cs

/-- The span at the start of a word, and what follows it. -/
def takeSpan (cs : List Char) : Span × List Char :=
  match takeHex cs with
  | (first, '-' :: rest) =>
    match takeHex rest with
    | (last, ':' :: rest) => (⟨first, last, (takeHex rest).1⟩, (takeHex rest).2)
    | (last, rest) => (⟨first, last, 1⟩, rest)
  | (first, rest) => (⟨first, first, 1⟩, rest)

/-- The spans of a table. -/
def spans (lines : List String) : List Span := (words lines).map fun w => (takeSpan w).1

/-- The characters of a list, separated by points. -/
def charList (cs : List Char) : List Char :=
  ((String.ofList cs).splitOn ".").map fun s => Char.ofNat (takeHex s.toList).1

/-- The three forms of a span. -/
example : ["AD", "300-314=E6", "100-12E:2>101"].map (fun w => takeSpan w.toList) =
    [(⟨0xad, 0xad, 1⟩, []), (⟨0x300, 0x314, 1⟩, ['=', 'E', '6']),
      (⟨0x100, 0x12e, 2⟩, ['>', '1', '0', '1'])] := by decide +kernel

/-- Every second character is in a span of step two. -/
example : [0x41, 0x42, 0x43, 0x44].map (fun n => Span.contains ⟨0x41, 0x43, 2⟩ (.ofNat n)) =
    [true, false, true, false] := by decide

end RemoteConsole.Text
