import RemoteConsole.Proofs.Json.Numeral
import RemoteConsole.Proofs.Json.Quoted

/-!
# Spellings of a value

* `Spelled`: the texts of a value, with blanks wherever they may stand.
* `spelled_compact`: the text without blanks is one of them.
* `Spelled.strip`: a reader that skips blanks comes to a part itself.
* `Spelled.number_eq`, `Spelled.string_eq` and so on: what it finds there.
-/

namespace RemoteConsole.Json

/-- What stands in a text: a value, with the colon or the key and the colon in front of it, and what
is left of the items of an array or of the members of an object; `first` says that none came
before. -/
inductive Part where
  | value (v : Json)
  | colon (v : Json)
  | member (key : String) (v : Json)
  | items (first : Bool) (vs : List Json)
  | members (first : Bool) (ms : List (String × Json))

/-- What stands in front of an item or a member. -/
def separator (first : Bool) : List Char := if first then [] else [',']

/-- The characters begin with a spelling of the part, and the rest follows. -/
inductive Spelled : Part → List Char → List Char → Prop where
  | blank {p x cs rest} (hx : IsBlank x) (h : Spelled p cs rest) : Spelled p (x :: cs) rest
  | null {rest} : Spelled (.value .null) ('n' :: 'u' :: 'l' :: 'l' :: rest) rest
  | yes {rest} : Spelled (.value (.bool true)) ('t' :: 'r' :: 'u' :: 'e' :: rest) rest
  | no {rest} : Spelled (.value (.bool false)) ('f' :: 'a' :: 'l' :: 's' :: 'e' :: rest) rest
  | number (n : Number) {rest} (h : Ends rest) :
    Spelled (.value (.number n)) (n.text.toList ++ rest) rest
  | string (s : String) {rest} : Spelled (.value (.string s)) ((quote s).toList ++ rest) rest
  | array {vs cs rest} (h : Spelled (.items true vs) cs rest) :
    Spelled (.value (.array vs)) ('[' :: cs) rest
  | object {ms cs rest} (h : Spelled (.members true ms) cs rest) :
    Spelled (.value (.object ms)) ('\x7b' :: cs) rest
  | colon {v cs rest} (h : Spelled (.value v) cs rest) : Spelled (.colon v) (':' :: cs) rest
  | member (key : String) {v cs rest} (h : Spelled (.colon v) cs rest) :
    Spelled (.member key v) ((quote key).toList ++ cs) rest
  | noItems {first rest} : Spelled (.items first []) (']' :: rest) rest
  | item {first v vs cs mid rest} (hv : Spelled (.value v) cs mid)
    (hvs : Spelled (.items false vs) mid rest) :
    Spelled (.items first (v :: vs)) (separator first ++ cs) rest
  | noMembers {first rest} : Spelled (.members first []) ('\x7d' :: rest) rest
  | members {first key v ms cs mid rest} (hm : Spelled (.member key v) cs mid)
    (hms : Spelled (.members false ms) mid rest) :
    Spelled (.members first ((key, v) :: ms)) (separator first ++ cs) rest

/-- The text spells the value, with blanks around it. -/
def Spells (text : String) (v : Json) : Prop :=
  ∃ rest, Spelled (.value v) text.toList rest ∧ ∀ x ∈ rest, IsBlank x

/-! ## Texts without blanks -/

theorem ends_nil : Ends [] := nofun

theorem ends_comma (rest : List Char) : Ends (',' :: rest) := by
  rintro x ⟨⟩
  exact .inr (.inl rfl)

theorem ends_bracket (rest : List Char) : Ends (']' :: rest) := by
  rintro x ⟨⟩
  exact .inr (.inr (.inl rfl))

theorem ends_brace (rest : List Char) : Ends ('\x7d' :: rest) := by
  rintro x ⟨⟩
  exact .inr (.inr (.inr rfl))

/-- What stands in front of the items or the members that are left. -/
def leading {α : Type} (first : Bool) (rest : List α) : List Char :=
  if rest.isEmpty then [] else separator first

theorem leading_true {α : Type} (rest : List α) : leading true rest = [] := ite_self []

mutual

theorem spelled_compact (v : Json) {rest : List Char} (h : Ends rest) :
    Spelled (.value v) (v.compact.toList ++ rest) rest := by
  cases v with
  | null => exact .null
  | bool b => cases b with
    | true => exact .yes
    | false => exact .no
  | number n => exact .number n h
  | string s => exact .string s
  | array vs =>
    have hvs := spelled_items true vs rest
    rw [leading_true] at hvs
    rw [compact, String.toList_append, String.toList_append, List.append_assoc, List.append_assoc]
    exact .array hvs
  | object ms =>
    have hms := spelled_members true ms rest
    rw [leading_true] at hms
    rw [compact, String.toList_append, String.toList_append, List.append_assoc, List.append_assoc]
    exact .object hms

theorem spelled_items (first : Bool) (vs : List Json) (rest : List Char) :
    Spelled (.items first vs) (leading first vs ++ ((compactItems vs).toList ++ ']' :: rest))
      rest := by
  cases vs with
  | nil => exact .noItems
  | cons v vs =>
    cases vs with
    | nil => exact .item (spelled_compact v (ends_bracket rest)) .noItems
    | cons w vs =>
      rw [compactItems, String.toList_append, String.toList_append, List.append_assoc,
        List.append_assoc]
      exact .item (spelled_compact v (ends_comma _)) (spelled_items false (w :: vs) rest)

theorem spelled_members (first : Bool) (ms : List (String × Json)) (rest : List Char) :
    Spelled (.members first ms) (leading first ms ++ ((compactMembers ms).toList ++ '\x7d' :: rest))
      rest := by
  cases ms with
  | nil => exact .noMembers
  | cons m ms =>
    obtain ⟨key, v⟩ := m
    cases ms with
    | nil =>
      rw [compactMembers, String.toList_append, String.toList_append, List.append_assoc,
        List.append_assoc]
      exact .members (.member key (.colon (spelled_compact v (ends_brace rest)))) .noMembers
    | cons m ms =>
      rw [compactMembers, String.toList_append, String.toList_append, String.toList_append,
        String.toList_append, List.append_assoc, List.append_assoc, List.append_assoc,
        List.append_assoc]
      exact .members (.member key (.colon (spelled_compact v (ends_comma _))))
        (spelled_members false (m :: ms) rest)

end

theorem spells_compact (v : Json) : Spells v.compact v := by
  have h := spelled_compact v ends_nil
  rw [List.append_nil] at h
  exact ⟨[], h, nofun⟩

/-! ## Where a part begins and ends -/

variable {p : Part} {cs rest : List Char}

theorem IsUnsigned.head (h : IsUnsigned cs) : ∃ x tail, cs = x :: tail ∧ x.isDigit := by
  obtain ⟨whole, fraction, exponent, ⟨⟨hne, hall⟩, -⟩, -, -, rfl⟩ := h
  obtain ⟨x, ds, rfl⟩ := List.exists_cons_of_ne_nil hne
  exact ⟨x, _, rfl, hall x List.mem_cons_self⟩

theorem IsNumeral.head (h : IsNumeral cs) : ∃ x tail, cs = x :: tail ∧ (x = '-' ∨ x.isDigit) := by
  obtain h | ⟨tail, -, rfl⟩ := h
  · obtain ⟨x, tail, hcs, hx⟩ := h.head
    exact ⟨x, tail, hcs, .inr hx⟩
  · exact ⟨'-', tail, rfl, .inl rfl⟩

theorem not_isBlank_of_isDigit {x : Char} (h : x.isDigit) : ¬IsBlank x := by
  rintro (rfl | rfl | rfl | rfl) <;> exact absurd h (by decide)

theorem Spelled.length_lt (h : Spelled p cs rest) : rest.length < cs.length := by
  induction h with
  | blank _ _ ih => exact Nat.lt_succ_of_lt ih
  | null => exact Nat.lt_add_of_pos_right (Nat.zero_lt_succ 3)
  | yes => exact Nat.lt_add_of_pos_right (Nat.zero_lt_succ 3)
  | no => exact Nat.lt_add_of_pos_right (Nat.zero_lt_succ 4)
  | number n _ =>
    obtain ⟨x, tail, hn, -⟩ := n.isNumeral_text.head
    rw [hn, List.length_append, List.length_cons]
    omega
  | string s =>
    rw [toList_quote, List.length_append, List.length_cons]
    omega
  | array _ ih => exact Nat.lt_succ_of_lt ih
  | object _ ih => exact Nat.lt_succ_of_lt ih
  | colon _ ih => exact Nat.lt_succ_of_lt ih
  | member key _ ih =>
    rw [List.length_append]
    omega
  | noItems => exact Nat.lt_succ_self _
  | item _ _ ihv ihvs =>
    rw [List.length_append]
    omega
  | noMembers => exact Nat.lt_succ_self _
  | members _ _ ihm ihms =>
    rw [List.length_append]
    omega

/-- The members that are left. -/
def Part.count : Part → Nat
  | .members _ ms => ms.length
  | .value _ => 0
  | .colon _ => 0
  | .member _ _ => 0
  | .items _ _ => 0

theorem Spelled.count_lt (h : Spelled p cs rest) : p.count < cs.length := by
  have hpos {cs rest : List Char} {p : Part} (h : Spelled p cs rest) : 0 < cs.length :=
    Nat.zero_lt_of_lt h.length_lt
  induction h with
  | blank _ _ ih => exact Nat.lt_succ_of_lt ih
  | @members first key v ms cs mid rest hm hms _ ih =>
    have hlength := hm.length_lt
    have hcount : ms.length < mid.length := ih
    show ms.length + 1 < _
    rw [List.length_append]
    omega
  | null => exact Nat.succ_pos _
  | yes => exact Nat.succ_pos _
  | no => exact Nat.succ_pos _
  | number n h => exact hpos (.number n h)
  | string s => exact hpos (.string s)
  | array _ => exact Nat.succ_pos _
  | object _ => exact Nat.succ_pos _
  | colon _ => exact Nat.succ_pos _
  | member key h => exact hpos (.member key h)
  | noItems => exact Nat.succ_pos _
  | item hv hvs => exact hpos (.item hv hvs)
  | noMembers => exact Nat.succ_pos _

/-- A reader that skips blanks comes to the part itself. -/
theorem Spelled.strip (h : Spelled p cs rest) {c : Cursor} (hc : c.rest = cs) :
    Spelled p c.skipBlanks.rest rest := by
  have hsolid {p : Part} {cs rest : List Char} (h : Spelled p cs rest) {x : Char}
      (hx : cs.head? = some x) (hblank : ¬IsBlank x) {c : Cursor} (hc : c.rest = cs) :
      Spelled p c.skipBlanks.rest rest := by
    obtain ⟨tail, rfl⟩ := List.head?_eq_some_iff.mp hx
    rwa [Cursor.skipBlanks_of_head hc hblank, hc]
  induction h generalizing c with
  | blank hx h ih =>
    rw [Cursor.skipBlanks_of_blank hc hx]
    exact ih (Cursor.advance_rest hc)
  | null => exact hsolid .null rfl (by decide) hc
  | yes => exact hsolid .yes rfl (by decide) hc
  | no => exact hsolid .no rfl (by decide) hc
  | number n h =>
    obtain ⟨x, tail, hn, hx⟩ := n.isNumeral_text.head
    have hblank : ¬IsBlank x := hx.elim (fun hx => by rw [hx]; decide) not_isBlank_of_isDigit
    exact hsolid (.number n h) (by rw [hn]; rfl) hblank hc
  | string s => exact hsolid (.string s) (by rw [toList_quote]; rfl) (by decide) hc
  | array h => exact hsolid (.array h) rfl (by decide) hc
  | object h => exact hsolid (.object h) rfl (by decide) hc
  | colon h => exact hsolid (.colon h) rfl (by decide) hc
  | member key h => exact hsolid (.member key h) (by rw [toList_quote]; rfl) (by decide) hc
  | noItems => exact hsolid .noItems rfl (by decide) hc
  | @item first _ _ _ _ _ hv hvs ih =>
    -- a first item brings its own blanks
    cases first with
    | true =>
      have hitems : Spelled (.items true _) (separator true ++ _) _ := .item (ih hc) hvs
      exact hitems
    | false => exact hsolid (.item hv hvs) rfl (by decide) hc
  | noMembers => exact hsolid .noMembers rfl (by decide) hc
  | @members first _ _ _ _ _ _ hm hms ih =>
    cases first with
    | true =>
      have hmembers : Spelled (.members true _) (separator true ++ _) _ := .members (ih hc) hms
      exact hmembers
    | false => exact hsolid (.members hm hms) rfl (by decide) hc

/-- No value begins with a bracket that closes. -/
theorem Spelled.head_value {v : Json} (h : Spelled (.value v) cs rest)
    (hsolid : ∀ x ∈ cs.head?, ¬IsBlank x) : ∃ x tail, cs = x :: tail ∧ x ≠ ']' := by
  cases h with
  | blank hx h => exact absurd hx (hsolid _ rfl)
  | null => exact ⟨_, _, rfl, by decide⟩
  | yes => exact ⟨_, _, rfl, by decide⟩
  | no => exact ⟨_, _, rfl, by decide⟩
  | number n h =>
    obtain ⟨x, tail, hn, hx⟩ := n.isNumeral_text.head
    refine ⟨x, tail ++ rest, by rw [hn]; rfl, ?_⟩
    rintro rfl
    exact absurd hx (by decide)
  | string s =>
    rw [toList_quote]
    exact ⟨_, _, rfl, by decide⟩
  | array h => exact ⟨_, _, rfl, by decide⟩
  | object h => exact ⟨_, _, rfl, by decide⟩

/-! What a part begins with, after its blanks. -/

theorem Spelled.number_eq {n : Number} (h : Spelled (.value (.number n)) cs rest)
    (hsolid : ∀ x ∈ cs.head?, ¬IsBlank x) : cs = n.text.toList ++ rest ∧ Ends rest := by
  cases h with
  | blank hx h => exact absurd hx (hsolid _ rfl)
  | number n h => exact ⟨rfl, h⟩

theorem Spelled.string_eq {s : String} (h : Spelled (.value (.string s)) cs rest)
    (hsolid : ∀ x ∈ cs.head?, ¬IsBlank x) :
    cs = '"' :: (s.toList.flatMap escape ++ '"' :: rest) := by
  cases h with
  | blank hx h => exact absurd hx (hsolid _ rfl)
  | string s =>
    rw [toList_quote, List.cons_append, List.append_assoc]
    rfl

theorem Spelled.object_eq {ms : List (String × Json)} (h : Spelled (.value (.object ms)) cs rest)
    (hsolid : ∀ x ∈ cs.head?, ¬IsBlank x) :
    ∃ tail, cs = '\x7b' :: tail ∧ Spelled (.members true ms) tail rest := by
  cases h with
  | blank hx h => exact absurd hx (hsolid _ rfl)
  | object h => exact ⟨_, rfl, h⟩

theorem Spelled.colon_eq {v : Json} (h : Spelled (.colon v) cs rest)
    (hsolid : ∀ x ∈ cs.head?, ¬IsBlank x) :
    ∃ tail, cs = ':' :: tail ∧ Spelled (.value v) tail rest := by
  cases h with
  | blank hx h => exact absurd hx (hsolid _ rfl)
  | colon h => exact ⟨_, rfl, h⟩

theorem Spelled.member_eq {key : String} {v : Json} (h : Spelled (.member key v) cs rest)
    (hsolid : ∀ x ∈ cs.head?, ¬IsBlank x) :
    ∃ tail, cs = '"' :: (key.toList.flatMap escape ++ '"' :: tail) ∧
      Spelled (.colon v) tail rest := by
  cases h with
  | blank hx h => exact absurd hx (hsolid _ rfl)
  | @member key v tail _ h =>
    refine ⟨tail, ?_, h⟩
    rw [toList_quote, List.cons_append, List.append_assoc]
    rfl

theorem Spelled.noMembers_eq {first : Bool} (h : Spelled (.members first []) cs rest)
    (hsolid : ∀ x ∈ cs.head?, ¬IsBlank x) : cs = '\x7d' :: rest := by
  cases h with
  | blank hx h => exact absurd hx (hsolid _ rfl)
  | noMembers => rfl

theorem Spelled.members_eq {first : Bool} {key : String} {v : Json} {ms : List (String × Json)}
    (h : Spelled (.members first ((key, v) :: ms)) cs rest)
    (hsolid : ∀ x ∈ cs.head?, ¬IsBlank x) :
    ∃ tail mid, cs = separator first ++ tail ∧ Spelled (.member key v) tail mid ∧
      Spelled (.members false ms) mid rest := by
  cases h with
  | blank hx h => exact absurd hx (hsolid _ rfl)
  | members hm hms => exact ⟨_, _, rfl, hm, hms⟩

end RemoteConsole.Json
