/-!
# Sets of characters

* `CharSet`: the ranges of code points, and what unions, intersections, complements and changes of
  letter case make of them.
* `CharSet.has`, `CharSet.contains`: membership of a code point, and of a character.
* `CharSet.named?`: the ASCII sets that have a name.
-/

namespace RemoteConsole.Text

/-- A set of characters. -/
inductive CharSet where
  | empty
  | range (first last : Nat)
  | union (a b : CharSet)
  | inter (a b : CharSet)
  | compl (a : CharSet)
  | caseless (a : CharSet)
deriving DecidableEq, Repr

/-- The code point of the ASCII letter in the other case; all else stays as it is. -/
def otherCase (n : Nat) : Nat :=
  if 65 ≤ n ∧ n ≤ 90 then n + 32 else if 97 ≤ n ∧ n ≤ 122 then n - 32 else n

namespace CharSet

/-- The code point is in the set. -/
def has : CharSet → Nat → Bool
  | empty, _ => false
  | range first last, n => first ≤ n && n ≤ last
  | union a b, n => a.has n || b.has n
  | inter a b, n => a.has n && b.has n
  | compl a, n => !a.has n
  | caseless a, n => a.has n || a.has (otherCase n)

/-- The character is in the set. -/
def contains (s : CharSet) (c : Char) : Bool := s.has c.toNat

/-- The set of one character. -/
def ofChar (c : Char) : CharSet := range c.toNat c.toNat

/-- The set of the characters of some ranges. -/
def ofRanges (rs : List (Char × Char)) : CharSet :=
  rs.foldr (fun (a, b) s => union (range a.toNat b.toNat) s) empty

/-- What is in the first set alone. -/
def diff (a b : CharSet) : CharSet := inter a (compl b)

/-- What is in one of the sets alone. -/
def symmDiff (a b : CharSet) : CharSet := union (diff a b) (diff b a)

/-- The decimal digits of ASCII. -/
def digits : CharSet := ofRanges [('0', '9')]

/-- The white space of ASCII. -/
def space : CharSet := ofRanges [('\t', '\r'), (' ', ' ')]

/-- The characters of ASCII that words are made of. -/
def word : CharSet := ofRanges [('0', '9'), ('A', 'Z'), ('_', '_'), ('a', 'z')]

/-- The set of ASCII characters with a name. -/
def named? (name : String) : Option CharSet :=
  if name = "alnum" then some (ofRanges [('0', '9'), ('A', 'Z'), ('a', 'z')])
  else if name = "alpha" then some (ofRanges [('A', 'Z'), ('a', 'z')])
  else if name = "ascii" then some (ofRanges [('\x00', '\x7f')])
  else if name = "blank" then some (ofRanges [('\t', '\t'), (' ', ' ')])
  else if name = "cntrl" then some (ofRanges [('\x00', '\x1f'), ('\x7f', '\x7f')])
  else if name = "digit" then some digits
  else if name = "graph" then some (ofRanges [('!', '~')])
  else if name = "lower" then some (ofRanges [('a', 'z')])
  else if name = "print" then some (ofRanges [(' ', '~')])
  else if name = "punct" then
    some (ofRanges [('!', '/'), (':', '@'), ('[', '\x60'), ('\x7b', '~')])
  else if name = "space" then some space
  else if name = "upper" then some (ofRanges [('A', 'Z')])
  else if name = "word" then some word
  else if name = "xdigit" then some (ofRanges [('0', '9'), ('A', 'F'), ('a', 'f')])
  else none

@[simp] theorem has_empty (n : Nat) : empty.has n = false := rfl

@[simp] theorem has_union (a b : CharSet) (n : Nat) : (union a b).has n = (a.has n || b.has n) :=
  rfl

@[simp] theorem has_inter (a b : CharSet) (n : Nat) : (inter a b).has n = (a.has n && b.has n) :=
  rfl

@[simp] theorem has_compl (a : CharSet) (n : Nat) : (compl a).has n = !a.has n := rfl

/-- A code point is in the difference when it is in the first set alone. -/
@[simp] theorem has_diff (a b : CharSet) (n : Nat) : (diff a b).has n = (a.has n && !b.has n) :=
  rfl

/-- A code point is in the symmetric difference when the sets disagree on it. -/
@[simp] theorem has_symmDiff (a b : CharSet) (n : Nat) :
    (symmDiff a b).has n = (a.has n != b.has n) := by
  cases ha : a.has n <;> cases hb : b.has n <;> simp [symmDiff, ha, hb]

/-- The other case of the other case is the code point itself. -/
theorem otherCase_otherCase (n : Nat) : otherCase (otherCase n) = n := by
  unfold otherCase; split <;> (try split) <;> (try split) <;> omega

/-- A caseless set holds a letter in both cases or in none. -/
theorem has_caseless_otherCase (a : CharSet) (n : Nat) :
    (caseless a).has (otherCase n) = (caseless a).has n := by
  simp only [has, otherCase_otherCase, Bool.or_comm]

end CharSet

end RemoteConsole.Text
