/-!
# Names beyond ASCII in ASCII

A label of a domain is written in ASCII as its ASCII characters, a hyphen, and digits that tell which
other characters stand where. The digits are numbers of variable length to the base 36; the place
where each number ends depends on the numbers before it (`threshold`, `adapt`).

* `Punycode.encode`: the text in ASCII.
* `Punycode.decode?`: the text that was written in ASCII.
-/

namespace RemoteConsole.Url.Punycode

/-! ## Digits -/

/-- The digit of a number below 36. -/
def digit (n : Nat) : Char := Char.ofNat (if n < 26 then 97 + n else 22 + n)

/-- The value of a digit, which may be a capital. -/
def digitValue? (c : Char) : Option Nat :=
  if 'a' ≤ c ∧ c ≤ 'z' then some (c.toNat - 97)
  else if 'A' ≤ c ∧ c ≤ 'Z' then some (c.toNat - 65)
  else if c.isDigit then some (c.toNat - 22)
  else none

/-- Each digit is read as the number for which it is written. -/
theorem digitValue?_digit {n : Nat} (h : n < 36) : digitValue? (digit n) = some n := by
  have all : ∀ m : Fin 36, digitValue? (digit m) = some m.val := by decide
  exact all ⟨n, h⟩

/-- A number ends at the first digit below the threshold of its place. -/
def threshold (bias place : Nat) : Nat :=
  if place ≤ bias then 1 else if bias + 26 ≤ place then 26 else place - bias

theorem one_le_threshold (bias place : Nat) : 1 ≤ threshold bias place := by
  unfold threshold; split <;> (try split) <;> omega

theorem threshold_le (bias place : Nat) : threshold bias place ≤ 26 := by
  unfold threshold; split <;> (try split) <;> omega

/-- How often a distance is divided until it is small, counted in places, and what is left. -/
def shrink (places delta : Nat) : Nat × Nat :=
  if 455 < delta then shrink (places + 36) (delta / 35) else (places, delta)
termination_by delta
decreasing_by omega

/-- The bias after a distance, with the number of characters that there are then. -/
def adapt (delta count : Nat) (isFirst : Bool) : Nat :=
  let scaled := delta / (if isFirst then 700 else 2)
  let (places, rest) := shrink 0 (scaled + scaled / count)
  places + 36 * rest / (rest + 38)

/-- The bias before the first distance. -/
def firstBias : Nat := 72

/-- The first character beyond ASCII. -/
def firstBeyond : Nat := 0x80

/-! ## Writing -/

/-- The digits of a number, from the place on. -/
def encodeNumber (bias place n : Nat) : List Char :=
  let t := threshold bias place
  if n < t then [digit n]
  else digit (t + (n - t) % (36 - t)) :: encodeNumber bias (place + 36) ((n - t) / (36 - t))
termination_by n
decreasing_by
  have := one_le_threshold bias place
  have := threshold_le bias place
  exact Nat.lt_of_le_of_lt (Nat.div_le_self ..) (by omega)

/-- The digits written so far, the distance since the last number, the bias, and the number of
characters that were written. -/
structure Encoder where
  digits : List Char
  delta : Nat
  bias : Nat
  count : Nat

/-- Goes past a character when the characters of a code point are written. -/
def Encoder.pass (e : Encoder) (basic code : Nat) (c : Char) : Encoder :=
  if c.toNat < code then { e with delta := e.delta + 1 }
  else if c.toNat = code then
    { digits := e.digits ++ encodeNumber e.bias 36 e.delta
      delta := 0
      bias := adapt e.delta (e.count + 1) (e.count = basic)
      count := e.count + 1 }
  else e

/-- Writes the characters of the code points, which grow, all being at least the next. -/
def Encoder.run (e : Encoder) (text : List Char) (basic next : Nat) : List Nat → Encoder
  | [] => e
  | code :: codes =>
    let e := { e with delta := e.delta + (code - next) * (e.count + 1) }
    let e := text.foldl (fun e c => e.pass basic code c) e
    { e with delta := e.delta + 1 }.run text basic (code + 1) codes

/-- The character is one of ASCII. -/
def isAscii (c : Char) : Bool := c.toNat < firstBeyond

/-- The code points beyond ASCII in the text, each once, in order. -/
def codesBeyond (text : List Char) : List Nat :=
  (((text.filter fun c => !isAscii c).map Char.toNat).mergeSort (· ≤ ·)).eraseReps

/-- The text in ASCII. -/
def encode (text : List Char) : List Char :=
  let basic := text.filter isAscii
  let start : Encoder := ⟨[], 0, firstBias, basic.length⟩
  (if basic.isEmpty then [] else basic ++ ['-']) ++
    (start.run text basic.length firstBeyond (codesBeyond text)).digits

/-! ## Reading -/

/-- The largest number that is read. -/
def largest : Nat := 0xffffffff

/-- Adds the number at the start of the digits, from a place and its weight on. The answer holds
what follows the number. -/
def decodeNumber? (bias place weight n : Nat) : List Char → Option (Nat × List Char)
  | [] => none
  | c :: rest =>
    match digitValue? c with
    | none => none
    | some d =>
      let t := threshold bias place
      let n := n + d * weight
      if largest < n then none
      else if d < t then some (n, rest)
      else if largest < weight * (36 - t) then none
      else decodeNumber? bias (place + 36) (weight * (36 - t)) n rest

/-- A number takes at least one digit. -/
theorem length_lt_of_decodeNumber? {bias place weight n : Nat} {cs : List Char} {m : Nat}
    {rest : List Char} (h : decodeNumber? bias place weight n cs = some (m, rest)) :
    rest.length < cs.length := by
  induction cs generalizing place weight n with
  | nil => simp [decodeNumber?] at h
  | cons c cs ih =>
    simp only [decodeNumber?] at h
    split at h
    · simp at h
    · split at h
      · simp at h
      · split at h
        · simp only [Option.some.injEq, Prod.mk.injEq] at h
          simp [← h.2]
        · split at h
          · simp at h
          · have := ih h
            simp only [List.length_cons]
            omega

/-- Puts the characters that the digits tell into the text. The next character is at least `code`,
and stands at `at` or later. -/
def insertAll? (bias code place : Nat) (text : List Char) (digits : List Char) :
    Option (List Char) :=
  if digits.isEmpty then some text
  else
    match _h : decodeNumber? bias 36 1 place digits with
    | none => none
    | some (n, rest) =>
      let count := text.length + 1
      let next := code + n / count
      if next.isValidChar then
        insertAll? (adapt (n - place) count (place = 0)) next (n % count + 1)
          (text.insertIdx (n % count) (.ofNat next)) rest
      else none
termination_by digits.length
decreasing_by exact length_lt_of_decodeNumber? _h

/-- The text that was written in ASCII; the last hyphen ends its ASCII characters. -/
def decode? (cs : List Char) : Option (List Char) :=
  match cs.reverse.span (· ≠ '-') with
  | (digits, []) => insertAll? firstBias firstBeyond 0 [] digits.reverse
  | (_, ['-']) => none
  | (digits, _ :: basic) => insertAll? firstBias firstBeyond 0 basic.reverse digits.reverse

end RemoteConsole.Url.Punycode
