import RemoteConsole.Proofs.Json.Spelling

/-!
# Passing over values

* `Cursor.skipPart`: the five readers that pass over parts, as one.
* `skipItems_item`, `skipMembers_member`: an item or a member is passed over, then those after it.
* `skipPart_passes`: a part of a value is passed over in each of its spellings.
* `skipValue_passes`: so is a value that nobody asked for.
-/

namespace RemoteConsole.Json.Cursor

variable {p : Part} {c : Cursor} {cs mid rest : List Char}

/-- Passes over a part. -/
def skipPart (steps : Nat) : Part → Cursor → Except Flaw Cursor
  | .value _, c => c.skipValueIn steps
  | .colon _, c => do (← c.colon).skipValueIn steps
  | .member _ _, c => do (← c.skipKey).skipValueIn steps
  | .items first _, c => c.skipItems steps first
  | .members first _, c => c.skipMembers steps first

theorem skipPart_skipBlanks {steps : Nat} (c : Cursor) (p : Part) :
    skipPart (steps + 1) p c.skipBlanks = skipPart (steps + 1) p c := by
  cases p with
  | value v =>
    show skipValueIn (steps + 1) c.skipBlanks = skipValueIn (steps + 1) c
    rw [skipValueIn, skipValueIn, skipBlanks_skipBlanks]
  | colon v =>
    have hcolon : c.skipBlanks.colon = c.colon := by
      unfold colon
      rw [skipBlanks_skipBlanks]
    dsimp only [skipPart]
    rw [hcolon]
  | member key v =>
    have hkey : c.skipBlanks.skipKey = c.skipKey := by
      unfold skipKey
      rw [skipBlanks_skipBlanks]
    dsimp only [skipPart]
    rw [hkey]
  | items first vs =>
    show skipItems (steps + 1) first c.skipBlanks = skipItems (steps + 1) first c
    rw [skipItems, skipItems, skipBlanks_skipBlanks]
  | members first ms =>
    show skipMembers (steps + 1) first c.skipBlanks = skipMembers (steps + 1) first c
    rw [skipMembers, skipMembers, skipBlanks_skipBlanks]

theorem skipPart_of_blank {steps : Nat} {c : Cursor} {x : Char} (hc : c.rest = x :: cs)
    (hx : IsBlank x) (p : Part) :
    skipPart (steps + 1) p c = skipPart (steps + 1) p c.advance := by
  rw [← skipPart_skipBlanks c, skipBlanks_of_blank hc hx, skipPart_skipBlanks]

/-! ## Leaves -/

theorem skipValueIn_number (steps : Nat) (n : Number) (hrest : Ends rest) :
    Passes (skipValueIn (steps + 1)) (n.text.toList ++ rest) rest := by
  intro c hc
  rcases n.isNumeral_text with h | ⟨tail, h, htext⟩
  · obtain ⟨x, tail, htext, hx⟩ := h.head
    have hpass := skipUnsigned_passes h hrest c hc
    rw [htext, List.cons_append] at hc
    rw [skipValueIn, skipBlanks_of_head hc (not_isBlank_of_isDigit hx), hc]
    have hne (y : Char) (tail' : List Char) (hy : y.isDigit = false) :
        x :: (tail ++ rest) ≠ y :: tail' := fun hcons => by
      rw [List.head_eq_of_cons_eq hcons, hy] at hx
      exact absurd hx Bool.false_ne_true
    split
    case h_1 hnil => exact absurd hnil (List.cons_ne_nil _ _)
    case h_9 hcons =>
      rw [← List.head_eq_of_cons_eq hcons, if_pos hx]
      exact hpass
    all_goals
      rename_i hcons
      exact absurd hcons (hne _ _ rfl)
  · rw [htext, List.cons_append] at hc
    rw [skipValueIn, skipBlanks_of_head hc (by decide), hc]
    exact skipUnsigned_passes h hrest c.advance (advance_rest hc)

theorem skipValueIn_string (steps : Nat) (s : String) (rest : List Char) :
    Passes (skipValueIn (steps + 1)) ((quote s).toList ++ rest) rest := by
  intro c hc
  rw [toList_quote, List.cons_append, List.append_assoc] at hc
  rw [skipValueIn, skipBlanks_of_head hc (by decide), hc]
  exact skipString_passes s rest c.advance (advance_rest hc)

theorem colon_of_head (hc : c.rest = ':' :: cs) : c.colon = .ok c.advance := by
  unfold colon
  rw [skipBlanks_of_head hc (by decide)]
  dsimp only
  rw [hc]
  rfl

theorem skipKey_of_head {key : String}
    (hc : c.rest = '"' :: (key.toList.flatMap escape ++ '"' :: cs)) :
    ∃ c' : Cursor, c.skipKey = c'.colon ∧ c'.rest = cs := by
  obtain ⟨c', hstring, hc'⟩ := skipString_passes key cs c.advance (advance_rest hc)
  refine ⟨c', ?_, hc'⟩
  unfold skipKey
  rw [skipBlanks_of_head hc (by decide)]
  dsimp only
  rw [hc, hstring]
  rfl

/-! ## Items and members -/

/-- The next item is passed over, and then those after it. -/
theorem skipItems_item {first : Bool} {v : Json} (steps : Nat) (hv : Spelled (.value v) cs mid)
    (hc : c.rest = separator first ++ cs) :
    ∃ c' : Cursor, c'.rest = cs ∧ c.skipItems (steps + 2) first =
      (c'.skipValueIn (steps + 1)).bind (skipItems (steps + 1) false) := by
  cases first with
  | true =>
    obtain ⟨x, tail, hx, hne⟩ := (hv.strip hc).head_value c.head_skipBlanks
    have hskip : skipValueIn (steps + 1) c.skipBlanks = skipValueIn (steps + 1) c :=
      skipPart_skipBlanks c (.value v)
    refine ⟨c, hc, ?_⟩
    rw [← hskip, skipItems, hx]
    split
    · rename_i hnil
      exact absurd hnil (List.cons_ne_nil _ _)
    · rename_i hcons
      exact absurd (List.head_eq_of_cons_eq hcons) hne
    · rfl
  | false =>
    refine ⟨c.advance, advance_rest hc, ?_⟩
    rw [skipItems, skipBlanks_of_head hc (by decide), hc]
    rfl

/-- The next member is passed over, and then those after it. -/
theorem skipMembers_member {first : Bool} {key : String} {v : Json} (steps : Nat)
    (hm : Spelled (.member key v) cs mid) (hc : c.rest = separator first ++ cs) :
    ∃ c' : Cursor, c'.rest = cs ∧ c.skipMembers (steps + 2) first =
      (skipPart (steps + 1) (.member key v) c').bind (skipMembers (steps + 1) false) := by
  cases first with
  | true =>
    obtain ⟨tail, hx, -⟩ := (hm.strip hc).member_eq c.head_skipBlanks
    refine ⟨c, hc, ?_⟩
    rw [← skipPart_skipBlanks, skipMembers, hx]
    dsimp only [skipPart]
    cases c.skipBlanks.skipKey <;> rfl
  | false =>
    refine ⟨c.advance, advance_rest hc, ?_⟩
    rw [skipMembers, skipBlanks_of_head hc (by decide), hc]
    dsimp only [skipPart]
    cases c.advance.skipKey <;> rfl

/-! ## All parts -/

/-- A part of a value is passed over in each of its spellings. -/
theorem skipPart_passes {steps : Nat} (h : Spelled p cs rest)
    (hsteps : cs.length ≤ steps + 1 + rest.length) : Passes (skipPart (steps + 1) p) cs rest := by
  induction h generalizing steps with
  | blank hx h ih =>
    intro c hc
    rw [List.length_cons] at hsteps
    rw [skipPart_of_blank hc hx]
    exact ih (by omega) c.advance (advance_rest hc)
  | @null rest =>
    intro c hc
    show ∃ c', skipValueIn (steps + 1) c = .ok c' ∧ c'.rest = rest
    rw [skipValueIn, skipBlanks_of_head hc (by decide), hc]
    exact literal_passes ['u', 'l', 'l'] rest c.advance (advance_rest hc)
  | @yes rest =>
    intro c hc
    show ∃ c', skipValueIn (steps + 1) c = .ok c' ∧ c'.rest = rest
    rw [skipValueIn, skipBlanks_of_head hc (by decide), hc]
    exact literal_passes ['r', 'u', 'e'] rest c.advance (advance_rest hc)
  | @no rest =>
    intro c hc
    show ∃ c', skipValueIn (steps + 1) c = .ok c' ∧ c'.rest = rest
    rw [skipValueIn, skipBlanks_of_head hc (by decide), hc]
    exact literal_passes ['a', 'l', 's', 'e'] rest c.advance (advance_rest hc)
  | number n h => exact skipValueIn_number steps n h
  | string s => exact skipValueIn_string steps s _
  | @array vs cs rest h ih =>
    intro c hc
    have hlength := h.length_lt
    rw [List.length_cons] at hsteps
    obtain ⟨steps, rfl⟩ : ∃ k, steps = k + 1 := ⟨steps - 1, by omega⟩
    show ∃ c', skipValueIn (steps + 1 + 1) c = .ok c' ∧ c'.rest = rest
    rw [skipValueIn, skipBlanks_of_head hc (by decide), hc]
    exact ih (by omega) c.advance (advance_rest hc)
  | @object ms cs rest h ih =>
    intro c hc
    have hlength := h.length_lt
    rw [List.length_cons] at hsteps
    obtain ⟨steps, rfl⟩ : ∃ k, steps = k + 1 := ⟨steps - 1, by omega⟩
    show ∃ c', skipValueIn (steps + 1 + 1) c = .ok c' ∧ c'.rest = rest
    rw [skipValueIn, skipBlanks_of_head hc (by decide), hc]
    exact ih (by omega) c.advance (advance_rest hc)
  | @colon v cs rest h ih =>
    intro c hc
    rw [List.length_cons] at hsteps
    have hskip := @ih steps (by omega) c.advance (advance_rest hc)
    dsimp only [skipPart]
    rw [colon_of_head hc]
    exact hskip
  | @member key v cs rest h ih =>
    intro c hc
    rw [toList_quote, List.cons_append, List.append_assoc] at hc
    rw [List.length_append] at hsteps
    obtain ⟨c', hkey, hc'⟩ := skipKey_of_head hc
    have hskip := @ih steps (by omega) c' hc'
    dsimp only [skipPart] at hskip ⊢
    rw [hkey]
    exact hskip
  | @noItems first rest =>
    intro c hc
    refine ⟨c.advance, ?_, advance_rest hc⟩
    show skipItems (steps + 1) first c = _
    rw [skipItems, skipBlanks_of_head hc (by decide), hc]
    rfl
  | @item first v vs cs mid rest hv hvs ihv ihvs =>
    intro c hc
    have hlength := hv.length_lt
    have hlength' := hvs.length_lt
    rw [List.length_append] at hsteps
    obtain ⟨steps, rfl⟩ : ∃ k, steps = k + 1 := ⟨steps - 1, by omega⟩
    obtain ⟨c₁, hc₁, hitem⟩ := skipItems_item steps hv hc
    obtain ⟨c₂, hskip, hc₂⟩ := @ihv steps (by omega) c₁ hc₁
    obtain ⟨c₃, hskip', hc₃⟩ := @ihvs steps (by omega) c₂ hc₂
    refine ⟨c₃, ?_, hc₃⟩
    dsimp only [skipPart] at hskip hskip' ⊢
    rw [hitem, hskip]
    exact hskip'
  | @noMembers first rest =>
    intro c hc
    refine ⟨c.advance, ?_, advance_rest hc⟩
    show skipMembers (steps + 1) first c = _
    rw [skipMembers, skipBlanks_of_head hc (by decide), hc]
    rfl
  | @members first key v ms cs mid rest hm hms ihm ihms =>
    intro c hc
    have hlength := hm.length_lt
    have hlength' := hms.length_lt
    rw [List.length_append] at hsteps
    obtain ⟨steps, rfl⟩ : ∃ k, steps = k + 1 := ⟨steps - 1, by omega⟩
    obtain ⟨c₁, hc₁, hmember⟩ := skipMembers_member steps hm hc
    obtain ⟨c₂, hskip, hc₂⟩ := @ihm steps (by omega) c₁ hc₁
    obtain ⟨c₃, hskip', hc₃⟩ := @ihms steps (by omega) c₂ hc₂
    refine ⟨c₃, ?_, hc₃⟩
    show c.skipMembers (steps + 2) first = _
    rw [hmember, hskip]
    exact hskip'

/-- A value that nobody asked for is passed over in each of its spellings. -/
theorem skipValue_passes {v : Json} (h : Spelled (.value v) cs rest) :
    Passes skipValue cs rest := by
  intro c hc
  have hsteps : cs.length ≤ 2 * c.rest.length + 3 + 1 + rest.length := by
    rw [hc]
    omega
  exact skipPart_passes h hsteps c hc

end RemoteConsole.Json.Cursor
