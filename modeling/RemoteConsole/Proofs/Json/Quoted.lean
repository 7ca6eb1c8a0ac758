import RemoteConsole.Json.Printer
import RemoteConsole.Proofs.Json.Cursor

/-!
# String literals

* `escape_cases`: a character stands in a literal as an escape, or as itself.
* `string_takes`, `skipString_passes`: a literal is read as the text that it was written for, and
  passed over as far as its closing quote.
-/

namespace RemoteConsole.Json

/-! ## Escapes -/

/-- Both readers of escapes stop after these characters, one of them with the character `x`. -/
def IsEscape (x : Char) (cs : List Char) : Prop :=
  ∀ rest, Cursor.Takes Cursor.escaped (cs ++ rest) x rest ∧
    Cursor.Passes Cursor.skipEscape (cs ++ rest) rest

theorem isEscape_short {letter x : Char} (h : Cursor.shortEscape letter = some x)
    (hu : letter ≠ 'u') : IsEscape x [letter] := by
  refine fun rest => ⟨fun c hc => ⟨c.advance, ?_, Cursor.advance_rest hc⟩,
    fun c hc => ⟨c.advance, ?_, Cursor.advance_rest hc⟩⟩
  · unfold Cursor.escaped
    rw [hc]
    split
    · rename_i hnil
      exact absurd hnil (List.cons_ne_nil _ _)
    · rename_i hcons
      exact absurd (List.head_eq_of_cons_eq hcons) hu
    · rename_i hcons
      rw [← List.head_eq_of_cons_eq hcons, h]
  · unfold Cursor.skipEscape
    rw [hc]
    split
    · rename_i hnil
      exact absurd hnil (List.cons_ne_nil _ _)
    · rename_i hcons
      exact absurd (List.head_eq_of_cons_eq hcons) hu
    · rename_i hcons
      rw [← List.head_eq_of_cons_eq hcons, h]
      rfl

theorem hexValue?_hexDigit {n : Nat} (h : n < 16) : Text.hexValue? (hexDigit n) = some n := by
  have hall : ∀ n < 16, Text.hexValue? (hexDigit n) = some n := by decide
  exact hall n h

theorem hexEscape_takes {n : Nat} (h : n < 0x20) (rest : List Char) :
    Cursor.Takes Cursor.hexEscape ('0' :: '0' :: hexDigit (n / 16) :: hexDigit (n % 16) :: rest) n
      rest := by
  intro c hc
  refine ⟨⟨rest, c.line, c.column + 4⟩, ?_, rfl⟩
  have hzero : Text.hexValue? '0' = some 0 := rfl
  have hsum : ((0 * 16 + 0) * 16 + n / 16) * 16 + n % 16 = n := by omega
  unfold Cursor.hexEscape
  rw [hc]
  dsimp only
  rw [hzero, hexValue?_hexDigit (show n / 16 < 16 by omega), hexValue?_hexDigit (by omega)]
  dsimp only
  rw [hsum]

theorem isEscape_control {x : Char} (h : x.toNat < 0x20) :
    IsEscape x ['u', '0', '0', hexDigit (x.toNat / 16), hexDigit (x.toNat % 16)] := by
  intro rest
  have hread (c : Cursor) (hc : c.rest = 'u' :: '0' :: '0' :: hexDigit (x.toNat / 16) ::
      hexDigit (x.toNat % 16) :: rest) := hexEscape_takes h rest c.advance (Cursor.advance_rest hc)
  refine ⟨fun c hc => ?_, fun c hc => ?_⟩
  · obtain ⟨c', hhex, hc'⟩ := hread c hc
    refine ⟨c', ?_, hc'⟩
    unfold Cursor.escaped
    rw [hc]
    dsimp only [List.cons_append]
    rw [hhex]
    have hlow : ¬(0xdc00 ≤ x.toNat ∧ x.toNat ≤ 0xdfff) := by omega
    have hhigh : ¬(0xd800 ≤ x.toNat ∧ x.toNat ≤ 0xdbff) := by omega
    exact (if_neg hlow).trans ((if_neg hhigh).trans (by rw [Char.ofNat_toNat]))
  · obtain ⟨c', hhex, hc'⟩ := hread c hc
    refine ⟨c', ?_, hc'⟩
    unfold Cursor.skipEscape
    rw [hc]
    dsimp only [List.cons_append]
    rw [hhex]
    rfl

/-- The characters with an escape of one letter. -/
def shortEscaped : List Char := ['"', '\\', '\n', '\r', '\t', '\x08', '\x0c']

theorem escape_short {x : Char} (h : x ∈ shortEscaped) :
    ∃ letter, escape x = ['\\', letter] ∧ Cursor.shortEscape letter = some x ∧ letter ≠ 'u' := by
  simp only [shortEscaped, List.mem_cons, List.not_mem_nil, or_false] at h
  rcases h with rfl | rfl | rfl | rfl | rfl | rfl | rfl <;> exact ⟨_, rfl, rfl, by decide⟩

/-- A character stands in a literal as an escape, or as itself. -/
theorem escape_cases (x : Char) :
    (∃ cs, escape x = '\\' :: cs ∧ IsEscape x cs) ∨
    (escape x = [x] ∧ x ≠ '"' ∧ x ≠ '\\' ∧ ¬x.toNat < 0x20) := by
  by_cases hshort : x ∈ shortEscaped
  · obtain ⟨letter, hx, hletter, hu⟩ := escape_short hshort
    exact .inl ⟨[letter], hx, isEscape_short hletter hu⟩
  · simp only [shortEscaped, List.mem_cons, List.not_mem_nil, or_false, not_or] at hshort
    obtain ⟨hquote, hbackslash, hn, hr, ht, hb, hf⟩ := hshort
    unfold escape
    rw [if_neg hquote, if_neg hbackslash, if_neg hn, if_neg hr, if_neg ht, if_neg hb, if_neg hf]
    by_cases hcontrol : x.toNat < 0x20
    · rw [if_pos hcontrol]
      exact .inl ⟨_, rfl, isEscape_control hcontrol⟩
    · rw [if_neg hcontrol]
      exact .inr ⟨rfl, hquote, hbackslash, hcontrol⟩

/-! ## Literals -/

namespace Cursor

variable {c : Cursor} {x : Char} {cs rest : List Char}

theorem stringChars_plain {steps : Nat} {read : List Char} (hc : c.rest = x :: rest)
    (hquote : x ≠ '"') (hbackslash : x ≠ '\\') (hcontrol : ¬x.toNat < 0x20) :
    stringChars (steps + 1) read c = stringChars steps (x :: read) c.advance := by
  rw [stringChars, hc]
  split
  · rename_i hnil
    exact absurd hnil (List.cons_ne_nil _ _)
  · rename_i hcons
    exact absurd (List.head_eq_of_cons_eq hcons) hquote
  · rename_i hcons
    exact absurd (List.head_eq_of_cons_eq hcons) hbackslash
  · rename_i hcons
    rw [← List.head_eq_of_cons_eq hcons]
    exact if_neg hcontrol

theorem skipChars_plain {steps : Nat} (hc : c.rest = x :: rest)
    (hquote : x ≠ '"') (hbackslash : x ≠ '\\') (hcontrol : ¬x.toNat < 0x20) :
    skipChars (steps + 1) c = skipChars steps c.advance := by
  rw [skipChars, hc]
  split
  · rename_i hnil
    exact absurd hnil (List.cons_ne_nil _ _)
  · rename_i hcons
    exact absurd (List.head_eq_of_cons_eq hcons) hquote
  · rename_i hcons
    exact absurd (List.head_eq_of_cons_eq hcons) hbackslash
  · rename_i hcons
    rw [← List.head_eq_of_cons_eq hcons]
    exact if_neg hcontrol

theorem stringChars_takes (cs read : List Char) {steps : Nat} (h : cs.length < steps) :
    Takes (stringChars steps read) (cs.flatMap escape ++ '"' :: rest)
      (String.ofList (read.reverse ++ cs)) rest := by
  induction cs generalizing read steps with
  | nil =>
    intro c hc
    obtain ⟨steps, rfl⟩ := Nat.exists_eq_add_one.mpr h
    refine ⟨c.advance, ?_, advance_rest hc⟩
    rw [stringChars, hc, List.append_nil]
    rfl
  | cons x cs ih =>
    intro c hc
    obtain ⟨steps, rfl⟩ := Nat.exists_eq_add_one.mpr (Nat.zero_lt_of_lt h)
    have hnext := ih (x :: read) (Nat.lt_of_succ_lt_succ h)
    rw [List.reverse_cons, List.append_assoc, List.singleton_append] at hnext
    rw [List.flatMap_cons, List.append_assoc] at hc
    rcases escape_cases x with ⟨es, hx, hes⟩ | ⟨hx, hquote, hbackslash, hcontrol⟩
    · rw [hx] at hc
      obtain ⟨c₁, hread, hc₁⟩ := (hes _).1 c.advance (advance_rest hc)
      obtain ⟨c₂, hrest, hc₂⟩ := hnext c₁ hc₁
      refine ⟨c₂, ?_, hc₂⟩
      rw [stringChars, hc]
      dsimp only [List.cons_append]
      rw [hread]
      exact hrest
    · rw [hx] at hc
      obtain ⟨c₁, hrest, hc₁⟩ := hnext c.advance (advance_rest hc)
      exact ⟨c₁, (stringChars_plain hc hquote hbackslash hcontrol).trans hrest, hc₁⟩

theorem skipChars_passes (cs : List Char) {steps : Nat} (h : cs.length < steps) :
    Passes (skipChars steps) (cs.flatMap escape ++ '"' :: rest) rest := by
  induction cs generalizing steps with
  | nil =>
    intro c hc
    obtain ⟨steps, rfl⟩ := Nat.exists_eq_add_one.mpr h
    refine ⟨c.advance, ?_, advance_rest hc⟩
    rw [skipChars, hc]
    rfl
  | cons x cs ih =>
    intro c hc
    obtain ⟨steps, rfl⟩ := Nat.exists_eq_add_one.mpr (Nat.zero_lt_of_lt h)
    have hnext := ih (Nat.lt_of_succ_lt_succ h)
    rw [List.flatMap_cons, List.append_assoc] at hc
    rcases escape_cases x with ⟨es, hx, hes⟩ | ⟨hx, hquote, hbackslash, hcontrol⟩
    · rw [hx] at hc
      obtain ⟨c₁, hskip, hc₁⟩ := (hes _).2 c.advance (advance_rest hc)
      obtain ⟨c₂, hrest, hc₂⟩ := hnext c₁ hc₁
      refine ⟨c₂, ?_, hc₂⟩
      rw [skipChars, hc]
      dsimp only [List.cons_append]
      rw [hskip]
      exact hrest
    · rw [hx] at hc
      obtain ⟨c₁, hrest, hc₁⟩ := hnext c.advance (advance_rest hc)
      exact ⟨c₁, (skipChars_plain hc hquote hbackslash hcontrol).trans hrest, hc₁⟩

end Cursor

theorem length_le_flatMap_escape (cs : List Char) : cs.length ≤ (cs.flatMap escape).length := by
  induction cs with
  | nil => exact Nat.le_refl 0
  | cons x cs ih =>
    have hx : 1 ≤ (escape x).length := by
      rcases escape_cases x with ⟨es, hx, -⟩ | ⟨hx, -⟩ <;> rw [hx] <;> exact Nat.le_add_left 1 _
    rw [List.flatMap_cons, List.length_append, List.length_cons]
    omega

theorem toList_quote (s : String) :
    (quote s).toList = '"' :: (s.toList.flatMap escape ++ ['"']) := by
  unfold quote
  rw [String.toList_append, String.toList_append,
    String.toList_ofList (l := s.toList.flatMap escape)]
  rfl

namespace Cursor

variable (s : String) (rest : List Char)

/-- A literal has no more characters than the text has left. -/
theorem length_lt_of_literal {c : Cursor} (hc : c.rest = s.toList.flatMap escape ++ '"' :: rest) :
    s.toList.length < c.rest.length + 1 := by
  have hlength := length_le_flatMap_escape s.toList
  rw [hc, List.length_append]
  omega

theorem string_takes : Takes string (s.toList.flatMap escape ++ '"' :: rest) s rest := by
  intro c hc
  obtain ⟨c', hread, hc'⟩ := stringChars_takes s.toList [] (length_lt_of_literal s rest hc) c hc
  rw [List.reverse_nil, List.nil_append, String.ofList_toList] at hread
  exact ⟨c', hread, hc'⟩

theorem skipString_passes : Passes skipString (s.toList.flatMap escape ++ '"' :: rest) rest :=
  fun c hc => skipChars_passes s.toList (length_lt_of_literal s rest hc) c hc

end Cursor

end RemoteConsole.Json
