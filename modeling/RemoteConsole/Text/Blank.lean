/-!
# White space and letter case

* `isBlank`: the Unicode property `White_Space`.
* `trim`, `trimEnd`: a text without the blanks at both ends, or at its end only.
* `isBlankText`: a text of blanks only.
* `lowerAscii`, `upperAscii`: the case of the ASCII letters alone is changed.
-/

namespace RemoteConsole.Text

/-- The Unicode property `White_Space`. -/
def isBlank (c : Char) : Bool :=
  let n := c.toNat
  (9 ≤ n && n ≤ 13) || n == 0x20 || n == 0x85 || n == 0xa0 || n == 0x1680 ||
  (0x2000 ≤ n && n ≤ 0x200a) || n == 0x2028 || n == 0x2029 || n == 0x202f || n == 0x205f ||
  n == 0x3000

/-- The characters from the first that is not blank. -/
def dropBlank (cs : List Char) : List Char := cs.dropWhile isBlank

/-- The characters up to the last that is not blank. -/
def dropBlankEnd (cs : List Char) : List Char := (dropBlank cs.reverse).reverse

/-- The text without the blanks at its end. -/
def trimEnd (s : String) : String := String.ofList (dropBlankEnd s.toList)

/-- The text without the blanks at both ends. -/
def trim (s : String) : String := String.ofList (dropBlankEnd (dropBlank s.toList))

/-- Nothing is left of the text after trimming. -/
def isBlankText (s : String) : Bool := s.toList.all isBlank

/-- The ASCII capitals become small letters. -/
def lowerAscii (s : String) : String := s.map Char.toLower

/-- The ASCII small letters become capitals. -/
def upperAscii (s : String) : String := s.map Char.toUpper

end RemoteConsole.Text
