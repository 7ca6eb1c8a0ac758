import RemoteConsole.Proofs.Rpc.Answer

/-!
# What a failure tells of a body

The failure for a status that is no success tells the beginning of the body that came with it.

* `Text.IsTrimmed s t`: `t` is what `s` has between the blanks at its ends (`isTrimmed_trim`).
* `Text.IsStart n s t`: `t` is the longest beginning of `s` with at most `n` characters
  (`isStart_truncate`).
* `Rpc.status_detail`: what the failure tells of any body, for any such status.
-/

namespace RemoteConsole

namespace Text

/-- `t` is `s` without the blanks at both ends. -/
structure IsTrimmed (s t : String) : Prop where
  between : ∃ before after, s.toList = before ++ t.toList ++ after ∧
    (∀ c ∈ before, isBlank c = true) ∧ ∀ c ∈ after, isBlank c = true
  first : ∀ c, t.toList.head? = some c → isBlank c = false
  last : ∀ c, t.toList.getLast? = some c → isBlank c = false

/-- `t` is the longest beginning of `s` that has at most `n` characters. -/
structure IsStart (n : Nat) (s t : String) : Prop where
  isPrefix : t.toList <+: s.toList
  length_le : t.length ≤ n
  longest : ∀ u : String, u.toList <+: s.toList → u.length ≤ n → u.toList <+: t.toList

/-! ## Trimming -/

/-- The blanks that a text begins with. -/
def blanks (cs : List Char) : List Char := cs.takeWhile isBlank

/-- The blanks that a text ends with. -/
def blanksEnd (cs : List Char) : List Char := (blanks cs.reverse).reverse

theorem isBlank_of_mem_blanks {cs : List Char} {c : Char} (h : c ∈ blanks cs) : isBlank c = true :=
  List.all_eq_true.mp List.all_takeWhile c h

theorem blanks_append (cs : List Char) : blanks cs ++ dropBlank cs = cs :=
  List.takeWhile_append_dropWhile

theorem append_blanksEnd (cs : List Char) : dropBlankEnd cs ++ blanksEnd cs = cs := by
  unfold dropBlankEnd blanksEnd
  rw [← List.reverse_append, blanks_append, List.reverse_reverse]

theorem head?_dropBlank {cs : List Char} {c : Char} (h : (dropBlank cs).head? = some c) :
    isBlank c = false := by
  have hne := List.head?_dropWhile_not isBlank cs
  unfold dropBlank at h
  rw [h] at hne
  simpa using hne

theorem toList_trim (s : String) : (trim s).toList = dropBlankEnd (dropBlank s.toList) :=
  String.toList_ofList

theorem isTrimmed_trim (s : String) : IsTrimmed s (trim s) where
  between := by
    refine ⟨blanks s.toList, blanksEnd (dropBlank s.toList), ?_, fun c => isBlank_of_mem_blanks,
      fun c hc => isBlank_of_mem_blanks (List.mem_reverse.mp hc)⟩
    rw [toList_trim, List.append_assoc, append_blanksEnd, blanks_append]
  first c hc := by
    rw [toList_trim] at hc
    have hhead : (dropBlank s.toList).head? = some c := by
      rw [← append_blanksEnd (dropBlank s.toList), List.head?_append, hc]
      rfl
    exact head?_dropBlank hhead
  last c hc := by
    rw [toList_trim, dropBlankEnd, List.getLast?_reverse] at hc
    exact head?_dropBlank hc

/-- Nothing is left of a text if and only if it has blanks only. -/
theorem IsTrimmed.eq_empty_iff {s t : String} (h : IsTrimmed s t) :
    t = "" ↔ ∀ c ∈ s.toList, isBlank c = true := by
  obtain ⟨before, after, hsplit, hbefore, hafter⟩ := h.between
  constructor
  · rintro rfl c hc
    rw [hsplit] at hc
    simp only [String.toList_empty, List.append_nil, List.mem_append] at hc
    exact hc.elim (hbefore c) (hafter c)
  · intro hblank
    cases hhead : t.toList.head? with
    | none => exact String.toList_eq_nil_iff.mp (List.head?_eq_none_iff.mp hhead)
    | some c =>
      have hmem : c ∈ s.toList := by
        rw [hsplit]
        exact List.mem_append_left _ (List.mem_append_right _ (List.mem_of_head? hhead))
      cases (h.first c hhead).symm.trans (hblank c hmem)

/-! ## Truncating -/

theorem isStart_truncate (n : Nat) (s : String) : IsStart n s (truncate n s) where
  isPrefix := by
    rw [toList_truncate]
    exact List.take_prefix n _
  length_le := by
    rw [← String.length_toList, toList_truncate]
    exact List.length_take_le n _
  longest u hu hlength := by
    rw [toList_truncate, List.prefix_take_iff]
    exact ⟨hu, hlength⟩

theorem IsStart.eq_iff {n : Nat} {s t : String} (h : IsStart n s t) : t = s ↔ s.length ≤ n := by
  constructor
  · rintro rfl
    exact h.length_le
  · intro hlength
    have hsame := h.longest s (List.prefix_refl _) hlength
    exact String.toList_inj.mp (h.isPrefix.eq_of_length_le hsame.length_le)

theorem IsStart.ne_empty {n : Nat} {s t : String} (h : IsStart n s t) (hn : 0 < n) (hs : s ≠ "") :
    t ≠ "" := by
  rintro rfl
  cases hchars : s.toList with
  | nil => exact hs (String.toList_eq_nil_iff.mp hchars)
  | cons c cs =>
    have hlength : (String.singleton c).length ≤ n := by
      rw [String.length_singleton]
      exact hn
    have hone := h.longest (String.singleton c) (by simp [hchars]) hlength
    simp at hone

end Text

namespace Rpc

/-! ## Main statement -/

/-- A status that is no success is the code of the failure. Of a body of blanks the message tells
nothing. Of any other body it tells the first 200 characters between the blanks at its ends: the
place where the text is cut is not inside of a character, and nothing is cut off a text that is no
longer. -/
theorem status_detail {status : Nat} (hstatus : ¬ (200 ≤ status ∧ status ≤ 299)) (body : String) :
    let detail := Text.trim body
    Text.IsTrimmed body detail ∧
    ((∀ c ∈ body.toList, Text.isBlank c = true) →
      parseResponse status body = .error ⟨status, some s!"HTTP status {status}"⟩) ∧
    ((∃ c ∈ body.toList, Text.isBlank c = false) →
      ∃ kept, parseResponse status body = .error ⟨status, some s!"HTTP status {status}: {kept}"⟩ ∧
        Text.truncate? 200 detail.toList = some kept.toList ∧
        Text.IsStart 200 detail kept ∧ kept ≠ "" ∧ (kept = detail ↔ detail.length ≤ 200)) := by
  intro detail
  have htrimmed : Text.IsTrimmed body detail := Text.isTrimmed_trim body
  refine ⟨htrimmed, fun hblank => ?_, fun ⟨c, hc, hnonblank⟩ => ?_⟩
  · rw [parseResponse_status hstatus]
    unfold statusError
    dsimp only
    rw [if_pos (htrimmed.eq_empty_iff.mpr hblank)]
  · have hne : detail ≠ "" := fun hempty => by
      rw [htrimmed.eq_empty_iff.mp hempty c hc] at hnonblank
      cases hnonblank
    have hstart := Text.isStart_truncate 200 detail
    refine ⟨Text.truncate 200 detail, ?_, ?_, hstart, hstart.ne_empty (by decide) hne,
      hstart.eq_iff⟩
    · rw [parseResponse_status hstatus]
      unfold statusError
      dsimp only
      rw [if_neg hne]
      rfl
    · rw [Text.truncate?_eq, Text.toList_truncate]

/-- A body of 201 characters of two bytes each, between a blank and the end of a line. -/
def longBody : String := .ofList (' ' :: List.replicate 201 'é' ++ ['\n'])

/-- All but the last of them are told. -/
theorem status_detail_long :
    ¬ (200 ≤ 503 ∧ 503 ≤ 299) ∧ (∃ c ∈ longBody.toList, Text.isBlank c = false) ∧
      ∃ kept, parseResponse 503 longBody = .error ⟨503, some s!"HTTP status 503: {kept}"⟩ ∧
        kept.toList = List.replicate 200 'é' ∧ kept ≠ Text.trim longBody := by
  have hstatus : ¬ (200 ≤ 503 ∧ 503 ≤ 299) := by decide
  have hchars : longBody.toList = ' ' :: List.replicate 201 'é' ++ ['\n'] := String.toList_ofList
  have hletter : ∃ c ∈ longBody.toList, Text.isBlank c = false := by
    refine ⟨'é', ?_, by decide⟩
    rw [hchars]
    decide
  have htrim : (Text.trim longBody).toList = List.replicate 201 'é' := by
    rw [Text.toList_trim, hchars]
    decide +kernel
  obtain ⟨-, -, hdetail⟩ := status_detail hstatus longBody
  obtain ⟨kept, hparse, hcut, -, -, hwhole⟩ := hdetail hletter
  refine ⟨hstatus, hletter, kept, hparse, ?_, fun heq => ?_⟩
  · rw [htrim, Text.truncate?_eq, List.take_replicate] at hcut
    exact (Option.some.inj hcut).symm
  · have hlength := hwhole.mp heq
    rw [← String.length_toList, htrim, List.length_replicate] at hlength
    exact absurd hlength (by decide)

end Rpc

end RemoteConsole
