import Mathlib.Data.List.Forall2
import RemoteConsole.Proofs.Json.Reading

/-!
# Reading records

* `Shape.Restores`: the members that a record is written with, one for each field, and what the record
  is while some of them were not read.
* `Trimmed`, `Trims`: members of which some were removed, in any order, among members that are not
  known; and objects of such members.
* `Restores.ofMembers`, `Restores.membersOfText`: reading what is left of the members.
* `Restores.reads`: the record that is read lacks what was removed, and nothing else.
-/

namespace RemoteConsole.Json

variable {σ : Type}

/-! ## Shapes -/

/-- The field reads the member, and puts back what a record lacks without it; what stands for a
missing member is what the record has then anyway. -/
structure Field.Restores (without : (String → Bool) → σ) (f : Field σ) (m : String × Json) :
    Prop where
  name : f.name = m.1
  absent : ∃ put, f.absent = some put ∧
    ∀ omitted, omitted m.1 = true → put (without omitted) = without omitted
  read : ∃ put, f.read.Reads m.2 put ∧
    ∀ omitted, put (without omitted) = without fun name => omitted name && name ≠ m.1

/-- The members are those that a record is written with, one for each field; and `without` gives the
record that some of them were not read for. -/
structure Shape.Restores (s : Shape σ) (without : (String → Bool) → σ)
    (members : List (String × Json)) : Prop where
  blank : without (fun _ => true) = s.blank
  congr : ∀ {a b}, (∀ m ∈ members, a m.1 = b m.1) → without a = without b
  nodup : (members.map Prod.fst).Nodup
  fields : List.Forall₂ (Field.Restores without) s.fields members

theorem Decoder.Reads.restores {α : Type} {d : Decoder α} {v : Json} {a : α} (h : d.Reads v a)
    {name : String} {put : α → σ → σ} {default : α} {without : (String → Bool) → σ}
    (habsent : ∀ omitted, omitted name = true → put default (without omitted) = without omitted)
    (hput : ∀ omitted,
      put a (without omitted) = without fun other => omitted other && other ≠ name) :
    (Field.of name put d default).Restores without (name, v) :=
  ⟨rfl, ⟨put default, rfl, habsent⟩, ⟨put a, h.map put, hput⟩⟩

section Fields

variable {without : (String → Bool) → σ} {fields : List (Field σ)} {members : List (String × Json)}

theorem find_member (h : List.Forall₂ (Field.Restores without) fields members)
    (hnodup : (members.map Prod.fst).Nodup) {m : String × Json} (hm : m ∈ members) :
    ∃ f, fields.find? (·.name = m.1) = some f ∧ f.Restores without m := by
  induction h with
  | nil => exact absurd hm List.not_mem_nil
  | @cons f m' fields members hf hfields ih =>
    rw [List.map_cons, List.nodup_cons] at hnodup
    rcases List.mem_cons.mp hm with rfl | hm
    · exact ⟨f, List.find?_cons_of_pos (decide_eq_true hf.name), hf⟩
    · have hne : f.name ≠ m.1 := by
        rw [hf.name]
        exact fun heq => hnodup.1 (heq ▸ List.mem_map_of_mem hm)
      rw [List.find?_cons_of_neg (by rw [decide_eq_false hne]; exact Bool.false_ne_true)]
      exact ih hnodup.2 hm

theorem find_unknown (h : List.Forall₂ (Field.Restores without) fields members) {key : String}
    (hkey : key ∉ members.map Prod.fst) : fields.find? (·.name = key) = none := by
  induction h with
  | nil => rfl
  | @cons f m fields members hf hfields ih =>
    rw [List.map_cons, List.mem_cons, not_or] at hkey
    have hne : f.name ≠ key := by
      rw [hf.name]
      exact Ne.symm hkey.1
    rw [List.find?_cons_of_neg (by rw [decide_eq_false hne]; exact Bool.false_ne_true)]
    exact ih hkey.2

theorem complete_eq (h : List.Forall₂ (Field.Restores without) fields members)
    {seen : List String} {omitted : String → Bool}
    (homitted : ∀ m ∈ members, m.1 ∉ seen → omitted m.1 = true) :
    Shape.complete seen fields (without omitted) = .ok (without omitted) := by
  induction h with
  | nil => rfl
  | @cons f m fields members hf _ ih =>
    have hrest := ih fun m hm => homitted m (List.mem_cons_of_mem _ hm)
    obtain ⟨put, habsent, hput⟩ := hf.absent
    rw [Shape.complete, hf.name, habsent]
    by_cases hseen : m.1 ∈ seen
    · rw [if_pos (List.contains_iff_mem.mpr hseen)]
      exact hrest
    · rw [if_neg (by rwa [List.contains_iff_mem])]
      dsimp only
      rw [hput omitted (homitted m List.mem_cons_self hseen)]
      exact hrest

end Fields

/-! ## Members that are left -/

/-- Of the members, those under known keys are the known members that were not removed, in any
order; there may be others. -/
def Trimmed (members : List (String × Json)) (omitted : String → Bool)
    (ms : List (String × Json)) : Prop :=
  (ms.filter fun m => (members.map Prod.fst).contains m.1).Perm
    (members.filter fun m => !omitted m.1)

/-- The second value is an object with what is left of the members of the first. -/
def Trims (omitted : String → Bool) (v w : Json) : Prop :=
  ∃ members ms, v = .object members ∧ w = .object ms ∧ Trimmed members omitted ms

/-- The object with this value under the key. -/
def update (v : Json) (key : String) (value : Json) : Json :=
  match v with
  | .object ms => .object (ms.map fun m => if m.1 = key then (key, value) else m)
  | v => v

/-- Of the members, those under known keys are known, and none of them was seen, nor comes twice; and
what was not seen is still omitted. -/
structure Unread (members : List (String × Json)) (seen : List String) (omitted : String → Bool)
    (ms : List (String × Json)) : Prop where
  known : ∀ m ∈ ms, m.1 ∈ members.map Prod.fst → m ∈ members ∧ m.1 ∉ seen
  nodup : ((ms.filter fun m => (members.map Prod.fst).contains m.1).map Prod.fst).Nodup
  omitted : ∀ m ∈ members, m.1 ∉ seen → omitted m.1 = true

section Unread

variable {members ms : List (String × Json)} {seen : List String} {omitted : String → Bool}
  {m : String × Json}

theorem Trimmed.unread (h : Trimmed members omitted ms) (hnodup : (members.map Prod.fst).Nodup) :
    Unread members [] (fun _ => true) ms := by
  refine ⟨fun m hm hkey => ⟨?_, List.not_mem_nil⟩, ?_, fun _ _ _ => rfl⟩
  · have hmem := h.subset (List.mem_filter.mpr ⟨hm, List.contains_iff_mem.mpr hkey⟩)
    exact (List.mem_filter.mp hmem).1
  · rw [(h.map Prod.fst).nodup_iff]
    exact hnodup.sublist (List.filter_sublist.map _)

theorem Trimmed.contains_eq (h : Trimmed members omitted ms) (hm : m ∈ members) :
    (ms.map Prod.fst).contains m.1 = !omitted m.1 := by
  have hkey : m.1 ∈ members.map Prod.fst := List.mem_map_of_mem hm
  rw [Bool.eq_iff_iff, List.contains_iff_mem]
  constructor
  · intro hmem
    obtain ⟨m', hm', heq⟩ := List.mem_map.mp hmem
    have hknown : m'.1 ∈ members.map Prod.fst := heq ▸ hkey
    have hleft := h.subset (List.mem_filter.mpr ⟨hm', List.contains_iff_mem.mpr hknown⟩)
    rw [← heq]
    exact (List.mem_filter.mp hleft).2
  · intro homitted
    have hleft := h.symm.subset (List.mem_filter.mpr ⟨hm, homitted⟩)
    exact List.mem_map_of_mem (List.mem_filter.mp hleft).1

theorem trimmed_filter (members : List (String × Json)) (omitted : String → Bool) :
    Trimmed members omitted (members.filter fun m => !omitted m.1) := by
  unfold Trimmed
  rw [List.filter_eq_self.mpr]
  intro m hm
  rw [List.contains_iff_mem]
  exact List.mem_map_of_mem (List.mem_filter.mp hm).1

theorem Unread.of_unknown (h : Unread members seen omitted (m :: ms))
    (hm : m.1 ∉ members.map Prod.fst) : Unread members seen omitted ms := by
  refine ⟨fun m' hm' => h.known m' (List.mem_cons_of_mem _ hm'), ?_, h.omitted⟩
  have hnodup := h.nodup
  rwa [List.filter_cons_of_neg (by rwa [List.contains_iff_mem])] at hnodup

theorem Unread.of_known (h : Unread members seen omitted (m :: ms))
    (hm : m.1 ∈ members.map Prod.fst) :
    m ∈ members ∧ m.1 ∉ seen ∧
      Unread members (m.1 :: seen) (fun name => omitted name && name ≠ m.1) ms := by
  obtain ⟨hmem, hseen⟩ := h.known m List.mem_cons_self hm
  have hnodup := h.nodup
  rw [List.filter_cons_of_pos (by rwa [List.contains_iff_mem]), List.map_cons,
    List.nodup_cons] at hnodup
  refine ⟨hmem, hseen, fun m' hm' hkey => ?_, hnodup.2, fun m' hm' hunseen => ?_⟩
  · obtain ⟨hmem', hseen'⟩ := h.known m' (List.mem_cons_of_mem _ hm') hkey
    refine ⟨hmem', List.not_mem_cons_of_ne_of_not_mem (fun heq => hnodup.1 ?_) hseen'⟩
    rw [← heq]
    exact List.mem_map_of_mem (List.mem_filter.mpr ⟨hm', List.contains_iff_mem.mpr hkey⟩)
  · rw [List.mem_cons, not_or] at hunseen
    rw [h.omitted m' hm' hunseen.2, decide_eq_true hunseen.1, Bool.and_true]

end Unread

namespace Shape

variable {s : Shape σ} {without : (String → Bool) → σ} {members ms : List (String × Json)}
  {seen : List String} {omitted : String → Bool}

/-- What is still missing once these members were read as well. -/
def stillOmitted (omitted : String → Bool) (ms : List (String × Json)) (name : String) : Bool :=
  omitted name && !(ms.map Prod.fst).contains name

theorem stillOmitted_nil (omitted : String → Bool) : stillOmitted omitted [] = omitted := by
  funext name
  exact Bool.and_true _

theorem stillOmitted_cons (omitted : String → Bool) (m : String × Json)
    (ms : List (String × Json)) :
    stillOmitted omitted (m :: ms) = stillOmitted (fun name => omitted name && name ≠ m.1) ms := by
  funext name
  unfold stillOmitted
  by_cases hname : name = m.1
  · simp [hname]
  · simp [hname, beq_false_of_ne hname]

/-- A member that is not known adds nothing to what was read. -/
theorem Restores.without_cons_unknown (h : s.Restores without members)
    (omitted : String → Bool) {m : String × Json} (hm : m.1 ∉ members.map Prod.fst) :
    without (stillOmitted omitted (m :: ms)) = without (stillOmitted omitted ms) := by
  refine h.congr fun m' hm' => ?_
  have hne : m'.1 ≠ m.1 := fun heq => hm (heq ▸ List.mem_map_of_mem hm')
  rw [stillOmitted_cons]
  unfold stillOmitted
  simp [hne]

/-- Reading members leaves a record that lacks what it lacked before and is not among them. -/
theorem Restores.ofMembers (h : s.Restores without members)
    (hms : Unread members seen omitted ms) :
    s.ofMembers (without omitted) seen ms = .ok (without (stillOmitted omitted ms)) := by
  induction ms generalizing seen omitted with
  | nil =>
    rw [stillOmitted_nil, Shape.ofMembers]
    exact complete_eq h.fields hms.omitted
  | cons m ms ih =>
    obtain ⟨key, v⟩ := m
    by_cases hkey : key ∈ members.map Prod.fst
    · obtain ⟨hmem, hseen, hms⟩ := hms.of_known hkey
      obtain ⟨f, hfind, hf⟩ := find_member h.fields h.nodup hmem
      obtain ⟨put, hread, hput⟩ := hf.read
      rw [stillOmitted_cons, ← ih hms, ← hput, Shape.ofMembers, hfind]
      dsimp only
      rw [if_neg (by rwa [List.contains_iff_mem]), hread.ofJson]
      rfl
    · rw [h.without_cons_unknown omitted hkey, ← ih (hms.of_unknown hkey), Shape.ofMembers,
        find_unknown h.fields hkey]

section Steps

variable {first : Bool} {a b : σ} {c c₁ c₂ c₃ c₄ : Cursor} {key : String}

theorem membersOfText_end (hnext : c.nextKey first = .ok none)
    (hcomplete : complete seen s.fields a = .ok b) (hend : endOfObject c = .ok c₁) (steps : Nat) :
    s.membersOfText (steps + 1) a seen first c = .ok (b, c₁) := by
  rw [membersOfText, hnext]
  dsimp only [bind, Except.bind]
  rw [hcomplete]
  dsimp only
  rw [hend]
  rfl

theorem membersOfText_known {f : Field σ} {put : σ → σ} (hnext : c.nextKey first = .ok (some c₁))
    (hkey : c₁.string = .ok (key, c₂)) (hfind : s.fields.find? (·.name = key) = some f)
    (hseen : key ∉ seen) (hcolon : c₂.colon = .ok c₃) (hvalue : f.read.ofText c₃ = .ok (put, c₄))
    (steps : Nat) :
    s.membersOfText (steps + 1) a seen first c =
      s.membersOfText steps (put a) (key :: seen) false c₄ := by
  rw [membersOfText, hnext]
  dsimp only [bind, Except.bind]
  rw [hkey]
  dsimp only
  rw [hfind]
  dsimp only
  rw [if_neg (by rwa [List.contains_iff_mem]), hcolon]
  dsimp only
  rw [hvalue]

theorem membersOfText_unknown (hnext : c.nextKey first = .ok (some c₁))
    (hkey : c₁.string = .ok (key, c₂)) (hfind : s.fields.find? (·.name = key) = none)
    (hcolon : c₂.colon = .ok c₃) (hvalue : c₃.skipValue = .ok c₄) (steps : Nat) :
    s.membersOfText (steps + 1) a seen first c = s.membersOfText steps a seen false c₄ := by
  rw [membersOfText, hnext]
  dsimp only [bind, Except.bind]
  rw [hkey]
  dsimp only
  rw [hfind]
  dsimp only
  rw [hcolon]
  dsimp only
  rw [hvalue]

end Steps

/-- Reading the spellings of members leaves the same record. -/
theorem Restores.membersOfText (h : s.Restores without members)
    (hms : Unread members seen omitted ms) {first : Bool} {cs rest : List Char}
    (hspelled : Spelled (.members first ms) cs rest) {steps : Nat} (hsteps : ms.length < steps) :
    Cursor.Takes (s.membersOfText steps (without omitted) seen first) cs
      (without (stillOmitted omitted ms)) rest := by
  induction ms generalizing seen omitted first cs steps with
  | nil =>
    intro c hc
    obtain ⟨steps, rfl⟩ := Nat.exists_eq_add_one.mpr hsteps
    obtain ⟨hnext, c', hend, hc'⟩ := Cursor.nextKey_none hspelled hc
    refine ⟨c', ?_, hc'⟩
    rw [stillOmitted_nil]
    exact membersOfText_end hnext (complete_eq h.fields hms.omitted) hend steps
  | cons m ms ih =>
    intro c hc
    obtain ⟨key, v⟩ := m
    obtain ⟨steps, rfl⟩ := Nat.exists_eq_add_one.mpr (Nat.zero_lt_of_lt hsteps)
    have hleft : ms.length < steps := Nat.lt_of_succ_lt_succ hsteps
    obtain ⟨c₁, tail, mid, hnext, hc₁, hcolon, hspelled⟩ := Cursor.nextKey_member hspelled hc
    obtain ⟨c₂, hstring, hc₂⟩ := Cursor.string_takes key tail c₁ hc₁
    obtain ⟨c₃, hc₃, hv⟩ := Cursor.colon_spelled hcolon hc₂
    by_cases hkey : key ∈ members.map Prod.fst
    · obtain ⟨hmem, hseen, hms⟩ := hms.of_known hkey
      obtain ⟨f, hfind, hf⟩ := find_member h.fields h.nodup hmem
      obtain ⟨put, hread, hput⟩ := hf.read
      obtain ⟨c₄, hvalue, hc₄⟩ := hread.ofText hv c₃ rfl
      obtain ⟨c₅, hrest, hc₅⟩ := ih hms hspelled hleft c₄ hc₄
      refine ⟨c₅, ?_, hc₅⟩
      rw [stillOmitted_cons, membersOfText_known hnext hstring hfind hseen hc₃ hvalue, hput]
      exact hrest
    · obtain ⟨c₄, hskip, hc₄⟩ := Cursor.skipValue_passes hv c₃ rfl
      obtain ⟨c₅, hrest, hc₅⟩ := ih (hms.of_unknown hkey) hspelled hleft c₄ hc₄
      have hfind := find_unknown h.fields hkey
      refine ⟨c₅, ?_, hc₅⟩
      rw [h.without_cons_unknown omitted hkey,
        membersOfText_unknown hnext hstring hfind hc₃ hskip]
      exact hrest

/-- A record is read from the members that are left, with what stands for a missing one for the others. -/
theorem Restores.reads (h : s.Restores without members) (hms : Trimmed members omitted ms) :
    (Decoder.record s).Reads (.object ms) (without omitted) := by
  have hread := hms.unread h.nodup
  have hleft : without (stillOmitted (fun _ => true) ms) = without omitted := by
    refine h.congr fun m hm => ?_
    unfold stillOmitted
    rw [hms.contains_eq hm, Bool.not_not, Bool.true_and]
  refine ⟨?_, fun hv c hc => ?_⟩
  · rw [← hleft, ← h.ofMembers hread, h.blank]
    rfl
  · obtain ⟨tail, htail, hmembers⟩ := (hv.strip hc).object_eq c.head_skipBlanks
    have hsteps : ms.length < ('\x7b' :: tail).length + 1 := by
      have hcount : ms.length < tail.length := hmembers.count_lt
      rw [List.length_cons]
      omega
    obtain ⟨c', hspelled, hc'⟩ := h.membersOfText hread hmembers hsteps
      c.skipBlanks.advance (Cursor.advance_rest htail)
    refine ⟨c', ?_, hc'⟩
    rw [← hleft, ← hspelled, h.blank]
    show s.ofText c = _
    unfold Shape.ofText
    dsimp only
    rw [htail]
    rfl

end Shape

end RemoteConsole.Json
