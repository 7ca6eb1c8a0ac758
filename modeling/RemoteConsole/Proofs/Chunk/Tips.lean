import RemoteConsole.Chunk
import Mathlib.Data.List.TakeWhile

/-!
# The tips of a chunk

A batch holds chunks, which may be batches again. `Chunk.tips c` is what `c` holds once every batch
in it is unpacked, depth first and with nothing left out.

* `notice?_eq`: the notice of a chunk is the flag of the first shutdown notice among its tips.
  `isSome_notice?_iff`: a chunk has one if and only if its tips do.
* `leaves_eq`: its leaves are the texts and records among the tips before that notice.
-/

namespace RemoteConsole

namespace Chunk

mutual

/-- What the chunk holds once its batches are unpacked, depth first. -/
def tips : Chunk → List Chunk
  | .empty => [.empty]
  | .text s => [.text s]
  | .record v => [.record v]
  | .batch chunks => tipsOf chunks
  | .shutdown clean => [.shutdown clean]

/-- What a list of chunks holds once its batches are unpacked. -/
def tipsOf : List Chunk → List Chunk
  | [] => []
  | c :: rest => tips c ++ tipsOf rest

end

/-- The flag of a shutdown notice. -/
def flag? : Chunk → Option Bool
  | .shutdown clean => some clean
  | .empty => none
  | .text _ => none
  | .record _ => none
  | .batch _ => none

/-- The chunk is a text or a record. -/
def isContent : Chunk → Bool
  | .text _ => true
  | .record _ => true
  | .empty => false
  | .batch _ => false
  | .shutdown _ => false

/-- The texts and records among tips, up to the first shutdown notice. -/
def contentsOf (ts : List Chunk) : List Chunk :=
  (ts.takeWhile fun t => t.flag?.isNone).filter isContent

/-! ## The first notice -/

mutual

theorem notice?_eq (c : Chunk) : c.notice? = c.tips.findSome? flag? := by
  cases c with
  | empty => rfl
  | text => rfl
  | record => rfl
  | batch cs => rw [notice?, tips, firstNotice?_eq cs]
  | shutdown => rfl

theorem firstNotice?_eq (cs : List Chunk) : firstNotice? cs = (tipsOf cs).findSome? flag? := by
  match cs with
  | [] => rfl
  | c :: rest =>
    rw [firstNotice?, tipsOf, List.findSome?_append, notice?_eq c, firstNotice?_eq rest]
    cases c.tips.findSome? flag? <;> rfl

end

theorem flag?_eq_some {t : Chunk} {clean : Bool} : t.flag? = some clean ↔ t = .shutdown clean := by
  cases t <;> simp [flag?]

/-- A chunk has a notice if and only if a shutdown is among its tips. -/
theorem isSome_notice?_iff (c : Chunk) :
    c.notice?.isSome = true ↔ ∃ clean, .shutdown clean ∈ c.tips := by
  rw [notice?_eq, List.findSome?_isSome_iff]
  constructor
  · rintro ⟨t, ht, hflag⟩
    obtain ⟨clean, hclean⟩ := Option.isSome_iff_exists.mp hflag
    obtain rfl := flag?_eq_some.mp hclean
    exact ⟨clean, ht⟩
  · rintro ⟨clean, ht⟩
    exact ⟨.shutdown clean, ht, rfl⟩

/-- Without a notice no tip is one. -/
theorem flag?_eq_none {ts : List Chunk} (h : ts.findSome? flag? = none) {t : Chunk} (ht : t ∈ ts) :
    t.flag? = none :=
  List.findSome?_eq_none_iff.mp h t ht

/-! ## The contents before it -/

theorem isContent_of_mem_contentsOf {ts : List Chunk} {t : Chunk} (ht : t ∈ contentsOf ts) :
    t.isContent = true :=
  (List.mem_filter.mp ht).2

theorem contentsOf_append_of_none {ts : List Chunk} (h : ts.findSome? flag? = none)
    (us : List Chunk) : contentsOf (ts ++ us) = contentsOf ts ++ contentsOf us := by
  have hall : ∀ t ∈ ts, (flag? t).isNone = true := fun t ht => by rw [flag?_eq_none h ht]; rfl
  have htake : (ts.takeWhile fun t => (flag? t).isNone) = ts := List.takeWhile_eq_self_iff.mpr hall
  unfold contentsOf
  rw [List.takeWhile_append_of_pos hall, List.filter_append, htake]

theorem contentsOf_append_of_some {ts : List Chunk} {clean : Bool}
    (h : ts.findSome? flag? = some clean) (us : List Chunk) :
    contentsOf (ts ++ us) = contentsOf ts := by
  obtain ⟨before, t, after, rfl, ht, hbefore⟩ := List.findSome?_eq_some_iff.mp h
  have hall : ∀ u ∈ before, (flag? u).isNone = true := fun u hu => by rw [hbefore u hu]; rfl
  unfold contentsOf
  rw [List.append_assoc, List.takeWhile_append_of_pos hall, List.takeWhile_append_of_pos hall,
    List.cons_append, List.takeWhile_cons, List.takeWhile_cons, ht]
  rfl

mutual

theorem leaves_eq (c : Chunk) : c.leaves = contentsOf c.tips := by
  cases c with
  | empty => rfl
  | text => rfl
  | record => rfl
  | batch cs => rw [leaves, tips, leavesOf_eq cs]
  | shutdown => rfl

theorem leavesOf_eq (cs : List Chunk) : leavesOf cs = contentsOf (tipsOf cs) := by
  match cs with
  | [] => rfl
  | c :: rest =>
    rw [leavesOf, tipsOf, leaves_eq c, leavesOf_eq rest, notice?_eq c]
    cases h : c.tips.findSome? flag? with
    | none => rw [contentsOf_append_of_none h]; rfl
    | some clean => rw [contentsOf_append_of_some h]; exact List.append_nil _

end

end Chunk

end RemoteConsole
