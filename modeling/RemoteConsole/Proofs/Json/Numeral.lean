import RemoteConsole.Json.Printer
import RemoteConsole.Proofs.Json.Cursor

/-!
# Numerals

* `IsNumeral`: the characters of a number: a sign, the digits before the point, a fraction and an
  exponent.
* `Ends`: what may follow a number in a text.
* `skipUnsigned_passes`: a numeral is passed over as far as its end.
* `number_takes`: the digits of a natural number of 64 bits are read as this number.
* `Number.isNumeral_text`: what is written for a number is a numeral.
-/

namespace RemoteConsole

/-! ## Shortest decimals -/

namespace Decimal.Binary

theorem digits_shortestFrom {x : Binary} (h : x.mantissa ≠ 0) (top : Int) (fuel digits : Nat) :
    (x.shortestFrom top fuel digits).digits ≠ 0 := by
  induction fuel generalizing digits with
  | zero => exact h
  | succ fuel ih =>
    rw [shortestFrom]
    split
    · exact ih _
    · rename_i d hne _
      exact fun hd => hne d.exponent (by rw [← hd])
    · exact ih _

end Decimal.Binary

namespace Json

/-! ## The grammar -/

/-- There are digits, and nothing else. -/
def AreDigits (ds : List Char) : Prop := ds ≠ [] ∧ ∀ d ∈ ds, d.isDigit

/-- The digits before the point: a zero stands alone. -/
def IsWhole (ds : List Char) : Prop := AreDigits ds ∧ (ds.head? = some '0' → ds = ['0'])

/-- A point and the digits after it, or nothing. -/
def IsFraction (cs : List Char) : Prop := cs = [] ∨ ∃ ds, AreDigits ds ∧ cs = '.' :: ds

/-- An exponent with its sign, or nothing. -/
def IsExponent (cs : List Char) : Prop :=
  cs = [] ∨ ∃ sign ds, (sign = '+' ∨ sign = '-') ∧ AreDigits ds ∧ cs = 'e' :: sign :: ds

/-- A number without its sign. -/
def IsUnsigned (cs : List Char) : Prop :=
  ∃ whole fraction exponent, IsWhole whole ∧ IsFraction fraction ∧ IsExponent exponent ∧
    cs = whole ++ (fraction ++ exponent)

/-- A number. -/
def IsNumeral (cs : List Char) : Prop := IsUnsigned cs ∨ ∃ rest, IsUnsigned rest ∧ cs = '-' :: rest

/-- A number may end here: at the end of a text, a blank, a comma or a closing bracket. -/
def Ends (rest : List Char) : Prop := ∀ x ∈ rest.head?, IsBlank x ∨ x = ',' ∨ x = ']' ∨ x = '}'

/-- No digit comes next. -/
def NoDigit (rest : List Char) : Prop := ∀ x ∈ rest.head?, x.isDigit = false

theorem Ends.noDigit {rest : List Char} (h : Ends rest) : NoDigit rest := by
  intro x hx
  rcases h x hx with (rfl | rfl | rfl | rfl) | rfl | rfl | rfl <;> rfl

theorem Ends.head_ne {rest : List Char} (h : Ends rest) {y : Char}
    (hy : ¬IsBlank y ∧ y ≠ ',' ∧ y ≠ ']' ∧ y ≠ '}') : rest.head? ≠ some y := by
  intro hrest
  obtain ⟨hblank, hcomma, hbracket, hbrace⟩ := hy
  exact (h y hrest).elim hblank fun h => h.elim hcomma fun h => h.elim hbracket hbrace

theorem IsExponent.noDigit {cs rest : List Char} (h : IsExponent cs) (hrest : Ends rest) :
    NoDigit (cs ++ rest) := by
  obtain rfl | ⟨sign, ds, -, -, rfl⟩ := h
  · exact hrest.noDigit
  · rintro x ⟨⟩
    rfl

theorem IsFraction.noDigit {cs rest : List Char} (h : IsFraction cs) (hrest : NoDigit rest) :
    NoDigit (cs ++ rest) := by
  obtain rfl | ⟨ds, -, rfl⟩ := h
  · exact hrest
  · rintro x ⟨⟩
    rfl

/-! ## Passing over -/

namespace Cursor

variable {c : Cursor} {ds cs rest : List Char}

theorem skipDigits_passes (h : ∀ d ∈ ds, d.isDigit) (hrest : NoDigit rest)
    (hc : c.rest = ds ++ rest) : c.skipDigits.rest = rest := by
  rw [skipDigits_rest, hc, List.dropWhile_append_of_pos h]
  cases rest with
  | nil => rfl
  | cons x rest => exact List.dropWhile_cons_of_neg (by rw [hrest x rfl]; exact Bool.false_ne_true)

theorem digit?_digits (h : AreDigits ds) (hc : c.rest = ds ++ rest) : c.digit?.isSome := by
  obtain ⟨hne, hall⟩ := h
  obtain ⟨d, ds, rfl⟩ := List.exists_cons_of_ne_nil hne
  rw [digit?_eq_some hc (hall d List.mem_cons_self)]
  rfl

theorem skipAnyExponent_passes (h : IsExponent cs) (hrest : Ends rest) :
    Passes skipAnyExponent (cs ++ rest) rest := by
  intro c hc
  obtain rfl | ⟨sign, ds, hsign, hds, rfl⟩ := h
  · refine ⟨c, ?_, hc⟩
    unfold skipAnyExponent
    split
    · rename_i hhead
      exact absurd (by rw [← List.nil_append rest, ← hc, hhead]; rfl)
        (hrest.head_ne (y := 'e') (by decide))
    · rename_i hhead
      exact absurd (by rw [← List.nil_append rest, ← hc, hhead]; rfl)
        (hrest.head_ne (y := 'E') (by decide))
    · rfl
  · have hmark : c.advance.rest = sign :: (ds ++ rest) := advance_rest hc
    have hdigits : c.advance.advance.rest = ds ++ rest := advance_rest hmark
    refine ⟨c.advance.advance.skipDigits, ?_, skipDigits_passes hds.2 hrest.noDigit hdigits⟩
    unfold skipAnyExponent skipExponent
    rw [hc]
    dsimp only [List.cons_append]
    rw [hmark]
    obtain rfl | rfl := hsign <;> exact if_pos (digit?_digits hds hdigits)

theorem skipFraction_passes {fraction exponent : List Char} (hfraction : IsFraction fraction)
    (hexponent : IsExponent exponent) (hrest : Ends rest) :
    Passes skipFraction (fraction ++ (exponent ++ rest)) rest := by
  intro c hc
  obtain rfl | ⟨ds, hds, rfl⟩ := hfraction
  · obtain ⟨c', hskip, hc'⟩ := skipAnyExponent_passes hexponent hrest c hc
    refine ⟨c', ?_, hc'⟩
    unfold skipFraction
    split
    · rename_i tail hhead
      rw [List.nil_append] at hc
      have hpoint : (exponent ++ rest).head? = some '.' := by rw [← hc, hhead]; rfl
      obtain rfl | ⟨sign, ds, -, -, rfl⟩ := hexponent
      · exact absurd hpoint (hrest.head_ne (by decide))
      · exact absurd (Option.some.inj hpoint) (by decide)
    · exact hskip
  · have hdigits : c.advance.rest = ds ++ (exponent ++ rest) := advance_rest hc
    obtain ⟨c', hskip, hc'⟩ := skipAnyExponent_passes hexponent hrest c.advance.skipDigits
      (skipDigits_passes hds.2 (hexponent.noDigit hrest) hdigits)
    refine ⟨c', ?_, hc'⟩
    unfold skipFraction
    rw [hc]
    exact (if_pos (digit?_digits hds hdigits)).trans hskip

/-- A digit other than zero has a value other than zero. -/
theorem value_ne_zero {d : Char} (hd : d.isDigit) (h : d ≠ '0') : d.toNat - 48 ≠ 0 := by
  have hlow : 48 ≤ d.toNat := (Char.isDigit_iff_toNat.mp hd).1
  intro hvalue
  exact h (Char.toNat_inj.mp (show d.toNat = 48 by omega))

theorem skipUnsigned_passes (h : IsUnsigned cs) (hrest : Ends rest) :
    Passes skipUnsigned (cs ++ rest) rest := by
  obtain ⟨whole, fraction, exponent, hwhole, hfraction, hexponent, rfl⟩ := h
  intro c hc
  rw [List.append_assoc, List.append_assoc] at hc
  obtain ⟨⟨hne, hall⟩, hzero⟩ := hwhole
  have htail : NoDigit (fraction ++ (exponent ++ rest)) :=
    hfraction.noDigit (hexponent.noDigit hrest)
  obtain ⟨d, ds, rfl⟩ := List.exists_cons_of_ne_nil hne
  have hd : d.isDigit := hall d List.mem_cons_self
  have hdigit : c.digit? = some (d.toNat - 48) := digit?_eq_some hc hd
  by_cases h0 : d = '0'
  · subst h0
    obtain rfl : ds = [] := List.tail_eq_of_cons_eq (hzero rfl)
    have hadvance : c.advance.rest = fraction ++ (exponent ++ rest) := advance_rest hc
    obtain ⟨c', hskip, hc'⟩ := skipFraction_passes hfraction hexponent hrest c.advance hadvance
    refine ⟨c', ?_, hc'⟩
    unfold skipUnsigned
    rw [hdigit]
    have hnone : c.advance.digit? = none := digit?_eq_none (by rw [hadvance]; exact htail)
    exact (if_neg (by rw [hnone]; exact Bool.false_ne_true)).trans hskip
  · obtain ⟨c', hskip, hc'⟩ := skipFraction_passes hfraction hexponent hrest c.skipDigits
      (skipDigits_passes hall htail hc)
    obtain ⟨v, hv⟩ := Nat.exists_eq_succ_of_ne_zero (value_ne_zero hd h0)
    refine ⟨c', ?_, hc'⟩
    unfold skipUnsigned
    rw [hdigit, hv]
    exact hskip

/-! ## Reading a natural number -/

theorem le_ofDigitChars (ds : List Char) (acc : Nat) : acc ≤ Nat.ofDigitChars 10 ds acc := by
  rw [Nat.ofDigitChars_eq_ofDigitChars_zero]
  have hpow : 1 * acc ≤ 10 ^ ds.length * acc :=
    Nat.mul_le_mul_right acc (Nat.one_le_pow _ _ (by decide))
  omega

theorem ofDigitChars_cons (d : Char) (ds : List Char) (acc : Nat) :
    Nat.ofDigitChars 10 (d :: ds) acc = Nat.ofDigitChars 10 ds (acc * 10 + (d.toNat - 48)) := by
  rw [Nat.ofDigitChars_cons, Nat.mul_comm]
  rfl

theorem afterInteger_takes (n : Nat) (hrest : Ends rest) :
    Takes (afterInteger true n) rest (.integer n) rest := by
  intro c hc
  refine ⟨c, ?_, hc⟩
  have hne (y : Char) (hy : ¬IsBlank y ∧ y ≠ ',' ∧ y ≠ ']' ∧ y ≠ '}') (tail : List Char) :
      c.rest ≠ y :: tail :=
    fun h => hrest.head_ne hy (by rw [← hc, h]; rfl)
  unfold afterInteger
  split
  · rename_i h
    exact absurd h (hne '.' (by decide) _)
  · rename_i h
    exact absurd h (hne 'e' (by decide) _)
  · rename_i h
    exact absurd h (hne 'E' (by decide) _)
  · rfl

theorem integerDigits_takes (hds : ∀ d ∈ ds, d.isDigit) (hrest : Ends rest) {steps acc : Nat}
    (hsteps : ds.length < steps) (hlimit : Nat.ofDigitChars 10 ds acc ≤ digitLimit) :
    Takes (integerDigits true steps acc) (ds ++ rest) (.integer (Nat.ofDigitChars 10 ds acc))
      rest := by
  induction ds generalizing steps acc with
  | nil =>
    intro c hc
    obtain ⟨steps, rfl⟩ := Nat.exists_eq_add_one.mpr hsteps
    rw [integerDigits, digit?_eq_none (by rw [hc]; exact hrest.noDigit)]
    exact afterInteger_takes acc hrest c hc
  | cons d ds ih =>
    intro c hc
    obtain ⟨steps, rfl⟩ := Nat.exists_eq_add_one.mpr (Nat.zero_lt_of_lt hsteps)
    rw [ofDigitChars_cons] at hlimit ⊢
    have hfits : ¬digitLimit < acc * 10 + (d.toNat - 48) :=
      Nat.not_lt.mpr (Nat.le_trans (le_ofDigitChars ds _) hlimit)
    rw [integerDigits, digit?_eq_some hc (hds d List.mem_cons_self)]
    dsimp only
    rw [if_neg hfits]
    exact ih (fun d hd => hds d (List.mem_cons_of_mem _ hd)) (Nat.lt_of_succ_lt_succ hsteps) hlimit
      c.advance (advance_rest hc)

theorem number_takes (h : IsWhole ds) (hrest : Ends rest)
    (hlimit : Nat.ofDigitChars 10 ds 0 ≤ digitLimit) :
    Takes number (ds ++ rest) (.integer (Nat.ofDigitChars 10 ds 0)) rest := by
  intro c hc
  obtain ⟨⟨hne, hall⟩, hzero⟩ := h
  obtain ⟨d, ds, rfl⟩ := List.exists_cons_of_ne_nil hne
  have hd : d.isDigit := hall d List.mem_cons_self
  have hsign : c.number = c.unsigned true := by
    unfold number
    rw [hc]
    split
    · rename_i hminus
      rw [List.head_eq_of_cons_eq hminus] at hd
      exact absurd hd (by decide)
    · rfl
  rw [hsign, unsigned, digit?_eq_some hc hd]
  by_cases h0 : d = '0'
  · subst h0
    obtain rfl : ds = [] := List.tail_eq_of_cons_eq (hzero rfl)
    have hadvance : c.advance.rest = rest := advance_rest hc
    have hnone : c.advance.digit? = none :=
      digit?_eq_none (by rw [hadvance]; exact hrest.noDigit)
    obtain ⟨c', hread, hc'⟩ := afterInteger_takes 0 hrest c.advance hadvance
    exact ⟨c', (if_neg (by rw [hnone]; exact Bool.false_ne_true)).trans hread, hc'⟩
  · rw [ofDigitChars_cons, Nat.zero_mul, Nat.zero_add] at hlimit ⊢
    have hsteps : ds.length < c.rest.length + 1 := by
      rw [hc, List.length_append, List.length_cons]
      omega
    obtain ⟨c', hread, hc'⟩ :=
      integerDigits_takes (fun d hd => hall d (List.mem_cons_of_mem _ hd)) hrest hsteps hlimit
        c.advance (advance_rest hc)
    obtain ⟨v, hv⟩ := Nat.exists_eq_succ_of_ne_zero (value_ne_zero hd h0)
    rw [hv] at hread ⊢
    exact ⟨c', hread, hc'⟩

end Cursor

/-! ## Texts of numbers -/

theorem eq_zero_of_head_toDigits {n : Nat} (h : (Nat.toDigits 10 n).head? = some '0') : n = 0 := by
  induction n using Nat.strongRecOn with
  | ind n ih =>
    rw [Nat.toDigits_eq_if (by decide)] at h
    split at h
    · rename_i hn
      have hdigit : ∀ n < 10, n.digitChar = '0' → n = 0 := by decide
      exact hdigit n hn (Option.some.inj h)
    · rename_i hn
      obtain ⟨d, ds, hds⟩ := List.exists_cons_of_ne_nil (Nat.toDigits_ne_nil (n := n / 10) (b := 10))
      rw [hds] at h
      have hzero := ih (n / 10) (by omega) (by rw [hds]; exact h)
      omega

theorem areDigits_toDigits (n : Nat) : AreDigits (Nat.toDigits 10 n) :=
  ⟨Nat.toDigits_ne_nil, fun _ => Nat.isDigit_of_mem_toDigits (by decide) (by decide)⟩

theorem isWhole_toDigits (n : Nat) : IsWhole (Nat.toDigits 10 n) := by
  refine ⟨areDigits_toDigits n, fun h => ?_⟩
  rw [eq_zero_of_head_toDigits h, Nat.toDigits_zero]

theorem toList_toString (n : Nat) : (toString n).toList = Nat.toDigits 10 n := by
  rw [Nat.toString_eq_ofList_toDigits, String.toList_ofList]

theorem isWhole_zero : IsWhole ['0'] := isWhole_toDigits 0

theorem AreDigits.of_subset {ds es : List Char} (h : AreDigits ds) (hne : es ≠ [])
    (hsub : es ⊆ ds) : AreDigits es :=
  ⟨hne, fun d hd => h.2 d (hsub hd)⟩

theorem AreDigits.append_zeros {ds : List Char} (h : AreDigits ds) (k : Nat) :
    AreDigits (ds ++ List.replicate k '0') := by
  refine ⟨fun hnil => h.1 (List.append_eq_nil_iff.mp hnil).1, fun d hd => ?_⟩
  rcases List.mem_append.mp hd with hd | hd
  · exact h.2 d hd
  · rw [List.eq_of_mem_replicate hd]
    rfl

theorem AreDigits.zeros_append {ds : List Char} (h : AreDigits ds) (k : Nat) :
    AreDigits (List.replicate k '0' ++ ds) := by
  refine ⟨fun hnil => h.1 (List.append_eq_nil_iff.mp hnil).2, fun d hd => ?_⟩
  rcases List.mem_append.mp hd with hd | hd
  · rw [List.eq_of_mem_replicate hd]
    rfl
  · exact h.2 d hd

theorem isUnsigned_point {whole fraction : List Char} (hwhole : IsWhole whole)
    (hfraction : AreDigits fraction) : IsUnsigned (whole ++ '.' :: fraction) :=
  ⟨whole, '.' :: fraction, [], hwhole, .inr ⟨fraction, hfraction, rfl⟩, .inl rfl,
    by rw [List.append_nil]⟩

theorem isExponent_text (point : Int) :
    IsExponent ((if 0 < point then "e+" else "e-") ++ toString (point - 1).natAbs).toList := by
  have hdigits := areDigits_toDigits (point - 1).natAbs
  rw [String.toList_append, toList_toString]
  split
  · exact .inr ⟨'+', _, .inl rfl, hdigits, rfl⟩
  · exact .inr ⟨'-', _, .inr rfl, hdigits, rfl⟩

theorem AreDigits.isWhole {x : Char} {ds : List Char} (h : AreDigits (x :: ds)) (hx : x ≠ '0') :
    IsWhole (x :: ds) :=
  ⟨h, fun hhead => absurd (Option.some.inj hhead) hx⟩

theorem AreDigits.tail {x y : Char} {ds : List Char} (h : AreDigits (x :: y :: ds)) :
    AreDigits (y :: ds) :=
  h.of_subset (List.cons_ne_nil _ _) (List.subset_cons_self x _)

/-- Digits with a point among them. -/
theorem isUnsigned_cut {x : Char} {ds : List Char} (h : AreDigits (x :: ds)) (hx : x ≠ '0')
    {k : Nat} (hk : k < ds.length) : IsUnsigned (x :: ds.take k ++ '.' :: ds.drop k) := by
  have hne : ds.drop k ≠ [] := fun hnil => by
    have hlength := List.drop_eq_nil_iff.mp hnil
    omega
  have htake : AreDigits (x :: ds.take k) := h.of_subset (List.cons_ne_nil _ _)
    (List.cons_subset_cons x (List.take_subset k ds))
  have hdrop : AreDigits (ds.drop k) := h.of_subset hne
    (List.subset_cons_of_subset x (List.drop_subset k ds))
  exact isUnsigned_point (htake.isWhole hx) hdrop

/-- Digits with a point after the first of them, and an exponent. -/
theorem isUnsigned_scientific {x y : Char} {ds exponent : List Char}
    (h : AreDigits (x :: y :: ds)) (hx : x ≠ '0') (hexponent : IsExponent exponent) :
    IsUnsigned (x :: '.' :: y :: ds ++ exponent) := by
  have hfirst : AreDigits [x] := h.of_subset (List.cons_ne_nil _ _)
    (List.cons_subset_cons x (List.nil_subset _))
  exact ⟨[x], '.' :: y :: ds, exponent, hfirst.isWhole hx, .inr ⟨y :: ds, h.tail, rfl⟩, hexponent,
    rfl⟩

/-- The digits of a decimal and its exponent, each in its place. -/
theorem isUnsigned_decimalText (layout : FloatLayout) {d : Decimal} (h : d.digits ≠ 0) :
    IsUnsigned (decimalText layout d).toList := by
  have hall := areDigits_toDigits d.digits
  obtain ⟨x, ds, hdigits⟩ := List.exists_cons_of_ne_nil hall.1
  have hx : x ≠ '0' := fun hx => h (eq_zero_of_head_toDigits (by rw [hdigits, hx]; rfl))
  rw [hdigits] at hall
  unfold decimalText
  dsimp only
  rw [← String.length_toList, toList_toString, hdigits]
  split
  · -- zeros up to the point
    rw [String.toList_append, String.toList_append, toList_toString, hdigits, String.toList_ofList]
    exact isUnsigned_point ((hall.append_zeros d.exponent.toNat).isWhole hx) isWhole_zero.1
  · split
    · -- the point is among the digits
      rename_i hlong hpoint
      rw [List.length_cons] at hlong hpoint ⊢
      obtain ⟨k, hk⟩ : ∃ k : Nat, (ds.length + 1 : Nat) + d.exponent = (k + 1 : Nat) :=
        ⟨(ds.length + d.exponent).toNat, by omega⟩
      rw [hk, Int.toNat_natCast, List.take_succ_cons, List.drop_succ_cons, String.toList_ofList]
      exact isUnsigned_cut hall hx (by omega)
    · split
      · -- zeros after the point
        rw [String.toList_append, String.toList_append, toList_toString, hdigits,
          String.toList_ofList (l := List.replicate _ _)]
        exact isUnsigned_point isWhole_zero (hall.zeros_append _)
      · -- an exponent
        have hexponent := isExponent_text ((x :: ds).length + d.exponent)
        cases ds with
        | nil =>
          rw [String.toList_append, String.toList_ofList]
          exact ⟨[x], [], _, hall.isWhole hx, .inl rfl, hexponent, rfl⟩
        | cons y ds =>
          rw [String.toList_append, String.toList_ofList]
          exact isUnsigned_scientific hall hx hexponent

theorem isNumeral_floatText (f : Float) : IsNumeral (floatText f).toList := by
  unfold floatText
  dsimp only
  have hunsigned (x : Decimal.Binary) :
      IsUnsigned (if x.mantissa = 0 then "0.0" else decimalText floatLayout x.shortest).toList := by
    split
    · exact ⟨['0'], ['.', '0'], [], isWhole_zero, .inr ⟨['0'], isWhole_zero.1, rfl⟩, .inl rfl, rfl⟩
    · rename_i h
      exact isUnsigned_decimalText floatLayout (Decimal.Binary.digits_shortestFrom h _ _ _)
  rw [String.toList_append]
  split
  · exact .inr ⟨_, hunsigned _, rfl⟩
  · exact .inl (hunsigned _)

theorem isUnsigned_toString (n : Nat) : IsUnsigned (toString n).toList := by
  rw [toList_toString]
  exact ⟨_, [], [], isWhole_toDigits n, .inl rfl, .inl rfl, (List.append_nil _).symm⟩

theorem Number.isNumeral_text (n : Number) : IsNumeral n.text.toList := by
  cases n with
  | float f => exact isNumeral_floatText f
  | integer n =>
    cases n with
    | ofNat n => exact .inl (isUnsigned_toString n)
    | negSucc n => exact .inr ⟨_, isUnsigned_toString (n + 1), String.toList_append⟩

end Json

end RemoteConsole
