/-!
# Places counted in bytes

* `byteSize`: the number of bytes of a text.
* `takeBytes?`, `dropBytes?`, `between?`: parts of a text that begin and end at places counted in
  bytes. There is no such part when a place is inside a character.
* `placed`: the characters of a text with the places at which they begin.
* `truncate`: the first characters of a text, cut off at the place at which the next one begins.

Cutting at the seam of two texts gives the texts back (`takeBytes?_append`, `dropBytes?_append`), and
the places of `placed` are such seams (`placed_getElem?`), so that a text can always be truncated
(`truncate?_eq`).
-/

namespace RemoteConsole.Text

/-- The number of bytes of a text. -/
def byteSize : List Char → Nat
  | [] => 0
  | c :: cs => c.utf8Size + byteSize cs

/-- The first `n` bytes of a text. -/
def takeBytes? : List Char → Nat → Option (List Char)
  | _, 0 => some []
  | [], _ + 1 => none
  | c :: cs, n => if c.utf8Size ≤ n then (takeBytes? cs (n - c.utf8Size)).map (c :: ·) else none

/-- What follows the first `n` bytes of a text. -/
def dropBytes? : List Char → Nat → Option (List Char)
  | cs, 0 => some cs
  | [], _ + 1 => none
  | c :: cs, n => if c.utf8Size ≤ n then dropBytes? cs (n - c.utf8Size) else none

/-- The part of a text between two places. -/
def between? (cs : List Char) (first last : Nat) : Option (List Char) :=
  (dropBytes? cs first).bind (takeBytes? · (last - first))

@[simp] theorem takeBytes?_zero (cs : List Char) : takeBytes? cs 0 = some [] := by
  cases cs <;> rfl

@[simp] theorem dropBytes?_zero (cs : List Char) : dropBytes? cs 0 = some cs := by
  cases cs <;> rfl

theorem takeBytes?_append (a b : List Char) : takeBytes? (a ++ b) (byteSize a) = some a := by
  induction a with
  | nil => simp [byteSize]
  | cons c cs ih =>
    have hc := c.utf8Size_pos
    obtain ⟨n, hn⟩ : ∃ n, c.utf8Size + byteSize cs = n + 1 := ⟨_, (Nat.succ_pred (by omega)).symm⟩
    simp only [List.cons_append, byteSize, hn, takeBytes?]
    rw [← hn, if_pos (by omega), Nat.add_sub_cancel_left, ih, Option.map_some]

theorem dropBytes?_append (a b : List Char) : dropBytes? (a ++ b) (byteSize a) = some b := by
  induction a with
  | nil => simp [byteSize]
  | cons c cs ih =>
    have hc := c.utf8Size_pos
    obtain ⟨n, hn⟩ : ∃ n, c.utf8Size + byteSize cs = n + 1 := ⟨_, (Nat.succ_pred (by omega)).symm⟩
    simp only [List.cons_append, byteSize, hn, dropBytes?]
    rw [← hn, if_pos (by omega), Nat.add_sub_cancel_left, ih]

/-- The middle of three texts lies between their seams. -/
theorem between?_append (a b c : List Char) :
    between? (a ++ (b ++ c)) (byteSize a) (byteSize a + byteSize b) = some b := by
  simp [between?, dropBytes?_append, takeBytes?_append]

/-- A place inside of a character cuts nothing. -/
example : between? ['é', 'a'] 1 2 = none ∧ between? ['é', 'a'] 2 3 = some ['a'] := by decide

/-! ## Truncating -/

/-- The characters of a text that begins at a place, each with the place at which it begins. -/
def placed : Nat → List Char → List (Nat × Char)
  | _, [] => []
  | place, c :: cs => (place, c) :: placed (place + c.utf8Size) cs

/-- A text of more than `n` characters, cut at the place at which the character after them begins.
Any other text is left as it is. -/
def truncate? (n : Nat) (cs : List Char) : Option (List Char) :=
  match (placed 0 cs)[n]? with
  | some (place, _) => takeBytes? cs place
  | none => some cs

/-- A character begins where those before it end. -/
theorem placed_getElem? (place n : Nat) (cs : List Char) :
    (placed place cs)[n]? = cs[n]?.map fun c => (place + byteSize (cs.take n), c) := by
  induction cs generalizing place n with
  | nil => rfl
  | cons c cs ih =>
    cases n with
    | zero => rfl
    | succ n =>
      simp only [placed, List.getElem?_cons_succ, List.take_succ_cons, byteSize, ih, Nat.add_assoc]

/-- The place of the cut is inside of no character. -/
theorem truncate?_eq (n : Nat) (cs : List Char) : truncate? n cs = some (cs.take n) := by
  unfold truncate?
  rw [placed_getElem?]
  cases hc : cs[n]? with
  | none =>
    rw [Option.map_none, List.take_of_length_le (List.getElem?_eq_none_iff.mp hc)]
  | some c =>
    have hcut := takeBytes?_append (cs.take n) (cs.drop n)
    rw [List.take_append_drop] at hcut
    simpa using hcut

/-- The first `n` characters of a text. -/
def truncate (n : Nat) (s : String) : String :=
  String.ofList ((truncate? n s.toList).get (by rw [truncate?_eq]; rfl))

theorem toList_truncate (n : Nat) (s : String) : (truncate n s).toList = s.toList.take n := by
  unfold truncate
  simp only [truncate?_eq, Option.get_some, String.toList_ofList]

/-- Characters of two and of four bytes. -/
example : truncate? 2 ['é', '😀', 'a'] = some ['é', '😀'] ∧
    truncate? 3 ['é', '😀', 'a'] = some ['é', '😀', 'a'] := by decide

end RemoteConsole.Text
