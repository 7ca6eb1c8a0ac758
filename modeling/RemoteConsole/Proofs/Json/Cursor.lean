import RemoteConsole.Json.Skip

/-!
# What is left of a text

* `IsBlank`: the blanks of JSON.
* `Cursor.Takes`, `Cursor.Passes`: what a reader makes of the characters in front of it, and which
  it leaves; its place in the text does not matter.
* `head_skipBlanks`, `skipDigits_rest`, `literal_passes`: the characters that the small readers leave.
-/

namespace RemoteConsole.Json

/-- A character that may stand between the parts of a value. -/
def IsBlank (x : Char) : Prop := x = ' ' ∨ x = '\n' ∨ x = '\t' ∨ x = '\r'

instance : DecidablePred IsBlank := fun x =>
  inferInstanceAs (Decidable (x = ' ' ∨ x = '\n' ∨ x = '\t' ∨ x = '\r'))

namespace Cursor

variable {c : Cursor} {x : Char} {cs rest : List Char}

/-- The reader makes `a` of the characters `cs`, and leaves `rest`. -/
def Takes {α : Type} (read : Cursor → Except Flaw (α × Cursor)) (cs : List Char) (a : α)
    (rest : List Char) : Prop :=
  ∀ c : Cursor, c.rest = cs → ∃ c', read c = .ok (a, c') ∧ c'.rest = rest

/-- The reader passes over the characters `cs` as far as `rest`. -/
def Passes (skip : Cursor → Except Flaw Cursor) (cs rest : List Char) : Prop :=
  ∀ c : Cursor, c.rest = cs → ∃ c', skip c = .ok c' ∧ c'.rest = rest

@[simp] theorem past_rest (c : Cursor) (x : Char) (rest : List Char) :
    (c.past x rest).rest = rest := by
  unfold past
  split <;> rfl

theorem advance_eq (h : c.rest = x :: rest) : c.advance = c.past x rest := by
  unfold advance
  rw [h]

theorem advance_rest (h : c.rest = x :: rest) : c.advance.rest = rest := by
  rw [advance_eq h, past_rest]

/-! ## Blanks -/

theorem skipBlanks_of_blank (h : c.rest = x :: rest) (hx : IsBlank x) :
    c.skipBlanks = c.advance.skipBlanks := by
  rw [advance_eq h]
  unfold skipBlanks
  rw [h, past_rest, skipBlanks.go]
  exact if_pos hx

theorem skipBlanks_of_not_blank (h : ∀ x ∈ c.rest.head?, ¬IsBlank x) : c.skipBlanks = c := by
  unfold skipBlanks
  cases hrest : c.rest with
  | nil => rfl
  | cons x rest => exact if_neg (h x (by rw [hrest]; rfl))

/-- Where a character that is no blank comes next, there is nothing to skip. -/
theorem skipBlanks_of_head (h : c.rest = x :: rest) (hx : ¬IsBlank x) : c.skipBlanks = c := by
  refine skipBlanks_of_not_blank ?_
  rw [h]
  rintro y ⟨⟩
  exact hx

theorem head_skipBlanks (c : Cursor) : ∀ x ∈ c.skipBlanks.rest.head?, ¬IsBlank x := by
  have hgo (cs : List Char) : ∀ c : Cursor, c.rest = cs →
      ∀ x ∈ (skipBlanks.go cs c).rest.head?, ¬IsBlank x := by
    induction cs with
    | nil =>
      intro c hc
      rw [skipBlanks.go, hc]
      nofun
    | cons y cs ih =>
      intro c hc
      rw [skipBlanks.go]
      split
      · exact ih _ (past_rest c y cs)
      · rename_i hy
        rw [hc]
        rintro x ⟨⟩
        exact hy
  exact hgo c.rest c rfl

@[simp] theorem skipBlanks_skipBlanks (c : Cursor) : c.skipBlanks.skipBlanks = c.skipBlanks :=
  skipBlanks_of_not_blank c.head_skipBlanks

theorem finished_of_blanks (h : ∀ x ∈ c.rest, IsBlank x) : c.finished = .ok () := by
  have hskip (cs : List Char) : ∀ c : Cursor, c.rest = cs → (∀ x ∈ cs, IsBlank x) →
      c.skipBlanks.rest = [] := by
    induction cs with
    | nil =>
      intro c hc _
      rw [skipBlanks_of_not_blank (by rw [hc]; nofun), hc]
    | cons x cs ih =>
      intro c hc hblank
      rw [skipBlanks_of_blank hc (hblank x List.mem_cons_self)]
      exact ih c.advance (advance_rest hc) fun y hy => hblank y (List.mem_cons_of_mem _ hy)
  unfold finished
  dsimp only
  rw [hskip c.rest c rfl h]
  rfl

/-! ## Digits -/

theorem skipDigits_rest (c : Cursor) : c.skipDigits.rest = c.rest.dropWhile Char.isDigit := by
  have hgo (cs : List Char) : ∀ c : Cursor, c.rest = cs →
      (skipDigits.go cs c).rest = cs.dropWhile Char.isDigit := by
    induction cs with
    | nil => exact fun c hc => hc
    | cons x cs ih =>
      intro c hc
      rw [skipDigits.go, List.dropWhile_cons]
      by_cases hx : x.isDigit
      · rw [if_pos hx, if_pos hx]
        exact ih _ (past_rest c x cs)
      · rw [if_neg hx, if_neg hx]
        exact hc
  exact hgo c.rest c rfl

theorem digit?_eq_some (h : c.rest = x :: rest) (hx : x.isDigit) :
    c.digit? = some (x.toNat - 48) := by
  unfold digit?
  rw [h]
  exact if_pos hx

theorem digit?_eq_none (h : ∀ x ∈ c.rest.head?, x.isDigit = false) : c.digit? = none := by
  unfold digit?
  cases hrest : c.rest with
  | nil => rfl
  | cons x rest => exact if_neg (Bool.eq_false_iff.mp (h x (by rw [hrest]; rfl)))

/-! ## Words -/

theorem literal_passes (word rest : List Char) : Passes (·.literal word) (word ++ rest) rest := by
  induction word with
  | nil => exact fun c hc => ⟨c, rfl, hc⟩
  | cons x word ih =>
    intro c hc
    dsimp only
    rw [literal, hc]
    dsimp only [List.cons_append]
    rw [if_pos rfl]
    exact ih _ (past_rest c x (word ++ rest))

end Cursor

end RemoteConsole.Json
