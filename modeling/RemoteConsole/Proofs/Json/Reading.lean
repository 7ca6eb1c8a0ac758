import RemoteConsole.Json.Decoder
import RemoteConsole.Proofs.Json.Passing

/-!
# Reading values

* `Decoder.Reads`: a decoder makes one and the same thing of a value and of each of its spellings.
* `Reads.parse`: so it does of a text of the value.
* `word32_reads`, `word64_reads`, `variant_reads`: the leaves.
* `nextKey_member`, `nextKey_none`: what comes next in an object.
-/

namespace RemoteConsole.Json

variable {α β : Type} {cs rest : List Char}

/-- The decoder makes `a` of the value, and of each of its spellings. -/
structure Decoder.Reads (d : Decoder α) (v : Json) (a : α) : Prop where
  ofJson : d.ofJson v = .ok a
  ofText : ∀ {cs rest}, Spelled (.value v) cs rest → Cursor.Takes d.ofText cs a rest

namespace Decoder

theorem Reads.map {d : Decoder α} {v : Json} {a : α} (h : d.Reads v a) (f : α → β) :
    (d.map f).Reads v (f a) where
  ofJson := by
    unfold Decoder.map
    dsimp only
    rw [h.ofJson]
    rfl
  ofText hv c hc := by
    obtain ⟨c', hread, hc'⟩ := h.ofText hv c hc
    refine ⟨c', ?_, hc'⟩
    unfold Decoder.map
    dsimp only
    rw [hread]
    rfl

theorem Reads.parse {d : Decoder α} {v : Json} {a : α} (h : d.Reads v a) {text : String}
    (ht : Spells text v) : d.parse text = .ok a := by
  obtain ⟨rest, hspelled, hblank⟩ := ht
  obtain ⟨c, hread, rfl⟩ := h.ofText hspelled (.ofString text) rfl
  unfold Decoder.parse
  rw [hread]
  show (c.finished >>= fun _ => .ok a) = _
  rw [Cursor.finished_of_blanks hblank]
  rfl

/-! ## Leaves -/

theorem integer_ofText {n high : Nat} (name : String) (h : n ≤ high) (hhigh : high ≤ digitLimit)
    (hv : Spelled (.value (.nat n)) cs rest) :
    Cursor.Takes (integer name 0 high).ofText cs (n : Int) rest := by
  intro c hc
  obtain ⟨hrest, hends⟩ := (hv.strip hc).number_eq c.head_skipBlanks
  have hdigits : c.skipBlanks.rest = Nat.toDigits 10 n ++ rest := by
    rw [hrest, ← toList_toString]
    rfl
  have hlimit : Nat.ofDigitChars 10 (Nat.toDigits 10 n) 0 ≤ digitLimit := by
    rw [Nat.ofDigitChars_ten_toDigits]
    exact Nat.le_trans h hhigh
  obtain ⟨c', hread, hc'⟩ :=
    Cursor.number_takes (isWhole_toDigits n) hends hlimit c.skipBlanks hdigits
  rw [Nat.ofDigitChars_ten_toDigits] at hread
  obtain ⟨hne, hall⟩ := areDigits_toDigits n
  obtain ⟨x, tail, hx⟩ := List.exists_cons_of_ne_nil hne
  have hdigit : x.isDigit := hall x (hx ▸ List.mem_cons_self)
  have hchecked : checked name 0 high (.integer n) = .ok (n : Int) :=
    if_pos ⟨Int.natCast_nonneg n, Int.ofNat_le.mpr h⟩
  refine ⟨c', ?_, hc'⟩
  unfold integer
  dsimp only
  rw [hdigits, hx]
  dsimp only [List.cons_append]
  rw [hdigit, Bool.or_true, if_pos rfl, hread]
  dsimp only [bind, Except.bind]
  rw [hchecked]

theorem natural_reads {n high : Nat} (name : String) (h : n ≤ high) (hhigh : high ≤ digitLimit) :
    (natural name high).Reads (.nat n) n := by
  have hinteger : (integer name 0 high).Reads (.nat n) (n : Int) :=
    ⟨if_pos ⟨Int.natCast_nonneg n, Int.ofNat_le.mpr h⟩, integer_ofText name h hhigh⟩
  exact hinteger.map Int.toNat

theorem word32_reads (n : UInt32) : word32.Reads (.nat n.toNat) n := by
  have hn : n.toNat ≤ 0xffffffff := Nat.le_of_lt_succ n.toNat_lt
  have h := (natural_reads "u32" hn (by decide)).map UInt32.ofNat
  rwa [UInt32.ofNat_toNat] at h

theorem word64_reads (name : String) (n : UInt64) : (word64 name).Reads (.nat n.toNat) n := by
  have hn : n.toNat ≤ 0xffffffffffffffff := Nat.le_of_lt_succ n.toNat_lt
  have h := (natural_reads name hn (by decide)).map UInt64.ofNat
  rwa [UInt64.ofNat_toNat] at h

theorem variant_reads {variants : List (String × α)} {name : String} {a : α}
    (h : variants.find? (·.1 = name) = some (name, a)) :
    (variant variants).Reads (.string name) a := by
  have hpick : pick variants name = .ok a := by
    unfold pick
    rw [h]
  refine ⟨hpick, fun hv c hc => ?_⟩
  have hname := (hv.strip hc).string_eq c.head_skipBlanks
  obtain ⟨c', hread, hc'⟩ := Cursor.string_takes name _ c.skipBlanks.advance
    (Cursor.advance_rest hname)
  refine ⟨c', ?_, hc'⟩
  unfold variant
  dsimp only
  rw [hname]
  show variantName variants c.skipBlanks = _
  unfold variantName
  rw [hread]
  dsimp only [bind, Except.bind]
  rw [hpick]

end Decoder

/-! ## What comes next in an object -/

namespace Cursor

variable {c : Cursor} {first : Bool} {key : String} {v : Json} {ms : List (String × Json)}

theorem nextKey_member (h : Spelled (.members first ((key, v) :: ms)) cs rest) (hc : c.rest = cs) :
    ∃ c' tail mid, c.nextKey first = .ok (some c') ∧
      c'.rest = key.toList.flatMap escape ++ '"' :: tail ∧ Spelled (.colon v) tail mid ∧
      Spelled (.members false ms) mid rest := by
  obtain ⟨tail, mid, htail, hm, hms⟩ := (h.strip hc).members_eq c.head_skipBlanks
  unfold nextKey
  cases first with
  | true =>
    obtain ⟨after, hafter, hcolon⟩ := (hm.strip htail).member_eq (head_skipBlanks _)
    rw [skipBlanks_skipBlanks] at hafter
    refine ⟨c.skipBlanks.advance, after, mid, ?_, advance_rest hafter, hcolon, hms⟩
    dsimp only
    rw [hafter]
    rfl
  | false =>
    obtain ⟨after, hafter, hcolon⟩ := (hm.strip (advance_rest htail)).member_eq (head_skipBlanks _)
    refine ⟨c.skipBlanks.advance.skipBlanks.advance, after, mid, ?_, advance_rest hafter, hcolon,
      hms⟩
    dsimp only
    rw [htail, hafter]
    rfl

theorem nextKey_none (h : Spelled (.members first []) cs rest) (hc : c.rest = cs) :
    c.nextKey first = .ok none ∧ ∃ c', Shape.endOfObject c = .ok c' ∧ c'.rest = rest := by
  have hend := (h.strip hc).noMembers_eq c.head_skipBlanks
  refine ⟨?_, c.skipBlanks.advance, ?_, advance_rest hend⟩
  · unfold nextKey
    dsimp only
    rw [hend]
    rfl
  · unfold Shape.endOfObject
    dsimp only
    rw [hend]
    rfl

theorem colon_spelled (h : Spelled (.colon v) cs rest) (hc : c.rest = cs) :
    ∃ c' : Cursor, c.colon = .ok c' ∧ Spelled (.value v) c'.rest rest := by
  obtain ⟨tail, htail, hv⟩ := (h.strip hc).colon_eq c.head_skipBlanks
  have hcolon : c.skipBlanks.colon = c.colon := by
    unfold colon
    rw [skipBlanks_skipBlanks]
  rw [← hcolon]
  exact ⟨c.skipBlanks.advance, colon_of_head htail, by rwa [advance_rest htail]⟩

end Cursor

end RemoteConsole.Json
