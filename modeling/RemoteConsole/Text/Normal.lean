import RemoteConsole.Text.Composition
import RemoteConsole.Text.Mark

/-!
# One form for each text

A letter with marks can be written as one character or as several, and marks in several orders.
The composed normal form is the same for all of them.

* `decompose`: each character is taken apart, and the marks at a character are put in the order of
  their classes.
* `compose`: letters and marks are put together where a character for them exists.
* `normalize`: the composed normal form.
-/

namespace RemoteConsole.Text

/-- Puts a character before a text; a mark moves behind the marks of lower classes. -/
def settle (c : Char) : List Char → List Char
  | [] => [c]
  | d :: rest =>
    if combiningClass d ≠ 0 && combiningClass d < combiningClass c then d :: settle c rest
    else c :: d :: rest

/-- The marks at each character in the order of their classes. -/
def reorder (cs : List Char) : List Char := cs.foldr settle []

/-- Each character taken apart. -/
def decompose (cs : List Char) : List Char := reorder (cs.flatMap parts)

/-- The characters as one, if there is one for them. -/
def joined (cs : List Char) : List Char :=
  match whole? cs with
  | some c => [c]
  | none => cs

/-- A mark of the same class, or of a higher one, stands between a character and its letter. -/
def isBlocked (apart : List Char) (c : Char) : Bool :=
  match apart.getLast? with
  | some d => combiningClass c ≤ combiningClass d
  | none => false

/-- What follows a letter of which some parts were read, and after it marks that stay apart. -/
def composeAfter (base apart : List Char) : List Char → List Char
  | [] => joined base ++ apart
  | c :: rest =>
    if !isBlocked apart c && (whole? (base ++ [c])).isSome then composeAfter (base ++ [c]) apart rest
    else if combiningClass c = 0 then joined base ++ apart ++ composeAfter [c] [] rest
    else composeAfter base (apart ++ [c]) rest

/-- Letters and marks put together. -/
def compose (cs : List Char) : List Char := composeAfter [] [] cs

/-- The composed normal form of a text. -/
def normalize (cs : List Char) : List Char := compose (decompose cs)

/-- Settling moves a mark, and loses none. -/
theorem settle_perm (c : Char) (cs : List Char) : (settle c cs).Perm (c :: cs) := by
  induction cs with
  | nil => exact .refl _
  | cons d rest ih =>
    rw [settle]
    split
    · exact (ih.cons d).trans (.swap c d rest)
    · exact .refl _

/-- Reordering loses no character. -/
theorem reorder_perm (cs : List Char) : (reorder cs).Perm cs := by
  induction cs with
  | nil => exact .refl _
  | cons c rest ih => exact (settle_perm c _).trans (ih.cons c)

end RemoteConsole.Text
