import RemoteConsole.Url.Domain
import RemoteConsole.Url.Percent

/-!
# Hosts

* `parseHost`: the host of a web address: a name, or an address of four or sixteen bytes, in the
  form in which it is written.
* `parseOpaqueHost`: the host of any other address, which is written as it stands.

The answer is `none` for a text that is no host.
-/

namespace RemoteConsole.Url

/-! ## Addresses of four bytes -/

/-- The number that the digits stand for. -/
def ofDigits (base : Nat) : Nat → List Char → Option Nat
  | n, [] => some n
  | n, c :: rest =>
    match Text.hexValue? c with
    | some d => if d < base then ofDigits base (n * base + d) rest else none
    | none => none

/-- A part of an address of four bytes: decimal, or octal or hexadecimal by its first digits. -/
def addressPart? (s : List Char) : Option Nat :=
  match s with
  | [] => none
  | '0' :: 'x' :: rest => ofDigits 16 0 rest
  | '0' :: 'X' :: rest => ofDigits 16 0 rest
  | '0' :: c :: rest => ofDigits 8 0 (c :: rest)
  | s => ofDigits 10 0 s

/-- The parts of a name between its points, without an empty part at the end. -/
def labels (name : String) : List String :=
  let parts := name.splitOn "."
  if parts.getLast? = some "" then parts.dropLast else parts

/-- The last part of the name is a number, so the name has to be an address. -/
def endsInNumber (name : String) : Bool :=
  match (labels name).getLast? with
  | some last =>
    (last ≠ "" && last.toList.all Char.isDigit) || (addressPart? last.toList).isSome
  | none => false

/-- The number of an address whose parts are given; the last part fills the bytes that are left. -/
def addressNumber? (parts : List Nat) : Option Nat :=
  match parts.getLast? with
  | none => none
  | some last =>
    let front := parts.dropLast
    if 4 < parts.length || front.any (255 < ·) || Nat.pow 256 (4 - front.length) ≤ last then none
    else some (front.zipIdx.foldl (fun n (p, i) => n + p * Nat.pow 256 (3 - i)) last)

/-- An address of four bytes in decimal. -/
def parseFourBytes (name : String) : Option String := do
  let n ← addressNumber? (← (labels name).mapM fun s => addressPart? s.toList)
  return ".".intercalate ([3, 2, 1, 0].map fun i => toString (n / Nat.pow 256 i % 256))

/-! ## Addresses of sixteen bytes -/

/-- A piece of up to four hexadecimal digits. -/
def hexPiece? (s : String) : Option Nat :=
  if s = "" || 4 < s.length then none else ofDigits 16 0 s.toList

/-- A byte in decimal, without zeros before it. -/
def decimalByte? (s : String) : Option Nat :=
  if s = "" || (1 < s.length && s.startsWith "0") then none
  else (ofDigits 10 0 s.toList).filter (· < 256)

/-- The pieces of a part of an address; the last of them may be four bytes in decimal. -/
def pieces? (mayEndInBytes : Bool) (s : String) : Option (List Nat) :=
  if s = "" then some []
  else
    let parts := s.splitOn ":"
    match parts.getLast? with
    | none => some []
    | some last =>
      if mayEndInBytes && last.toList.contains '.' then do
        let front ← parts.dropLast.mapM hexPiece?
        match ← (last.splitOn ".").mapM decimalByte? with
        | [a, b, c, d] => some (front ++ [a * 256 + b, c * 256 + d])
        | _ => none
      else parts.mapM hexPiece?

/-- The eight pieces of an address; a pair of colons stands for pieces that are zero. -/
def eightPieces? (s : String) : Option (List Nat) :=
  match s.splitOn "::" with
  | [whole] => (pieces? true whole).filter (·.length = 8)
  | [front, back] => do
    let front ← pieces? false front
    let back ← pieces? true back
    if 8 ≤ front.length + back.length then none
    else some (front ++ List.replicate (8 - front.length - back.length) 0 ++ back)
  | _ => none

/-- The length of the run of zeros at the start. -/
def zeroRun (ps : List Nat) : Nat := (ps.takeWhile (· = 0)).length

/-- The place and the length of the longest run of at least two zeros, the first of several. -/
def longestRun (ps : List Nat) : Option (Nat × Nat) :=
  (List.range ps.length).foldl (fun best i =>
    let n := zeroRun (ps.drop i)
    match best with
    | some (_, m) => if m < n then some (i, n) else best
    | none => if 2 ≤ n then some (i, n) else none) none

/-- Pieces in hexadecimal, separated by colons. -/
def joinPieces (ps : List Nat) : String :=
  ":".intercalate (ps.map fun p => String.ofList (Nat.toDigits 16 p))

/-- An address of eight pieces; its longest run of zeros is left out. -/
def writePieces (ps : List Nat) : String :=
  match longestRun ps with
  | none => joinPieces ps
  | some (i, n) => joinPieces (ps.take i) ++ "::" ++ joinPieces (ps.drop (i + n))

/-- An address of sixteen bytes between brackets. -/
def parseBracketed (cs : List Char) : Option String :=
  match cs.getLast? with
  | some ']' => (eightPieces? (String.ofList cs.dropLast)).map fun ps => "[" ++ writePieces ps ++ "]"
  | _ => none

/-! ## Names -/

/-- A name in ASCII, whose bytes may be written in hexadecimal. -/
def parseName (cs : List Char) : Option String := do
  let s ← String.fromUTF8? ⟨(percentDecode cs).toArray⟩
  domainInAscii? s.toList

/-- The host of a web address. -/
def parseHost (cs : List Char) : Option String :=
  match cs with
  | '[' :: rest => parseBracketed rest
  | cs => do
    let name ← parseName cs
    if name = "" then none
    else if endsInNumber name then parseFourBytes name
    else some name

/-- The characters that no opaque host holds. -/
def isForbiddenInOpaque (c : Char) : Bool :=
  ['\x00', '\t', '\n', '\r', ' ', '#', '/', ':', '<', '>', '?', '@', '[', '\\', ']', '^',
    '|'].contains c

/-- The host of an address that is no web address. -/
def parseOpaqueHost (cs : List Char) : Option String :=
  match cs with
  | '[' :: rest => parseBracketed rest
  | cs => if cs.any isForbiddenInOpaque then none else some (percentEncode isControl cs)

end RemoteConsole.Url
