import RemoteConsole.Display.Writer
import RemoteConsole.Proofs.Visits

/-!
# What a writer makes of items

* `Writer.warnings`, `Writer.panic?`: what the end of a call is worth in a reaction.
* `Writer.line`: the text of an item. `join_pieces`: the pieces of an item make it up.
* `Writer.solid`: the pieces that have characters; only these are called for.
* `writeAll_flushed`, `writeAll_lost`: pieces that are all written, and pieces that are not.
* `render_flushed`, `render_lost`: an item that gets as far as the flush, and one that does not.
* `render_eq`: an item is handled as on a writer that nothing ever happened to, with what was
  written and called before in front.
* `Writer.items_written_whole`: any items, with devices that do differently each time.
-/

namespace RemoteConsole.Writer

variable {d : Device} {ps : List String} {item : Item}

/-! ## What a call leads to -/

/-- The warnings that the end of a call is worth: one about a failure, with its error. -/
def warnings : Device.Result → List Log.Record
  | .failed error =>
    [⟨.warn, "console_stream::render",
      [("message", "failed to write console output"), ("error", error)]⟩]
  | .done => []
  | .panicked _ => []

/-- The panic that a call ended in. -/
def panic? : Device.Result → Option Panic
  | .panicked p => some p
  | .done => none
  | .failed _ => none

theorem reaction_eq (result : Device.Result) : reaction result = ⟨warnings result, panic? result⟩ := by
  cases result <;> rfl

/-! ## Pieces of text -/

/-- The text of an item. -/
def line : Item → String
  | .text s => s
  | .exception c (some m) => c ++ ": " ++ m ++ "\n"
  | .exception c none => c ++ "\n"
  | .dump s => s ++ "\n"
  | .clear => ""

theorem join_pieces (item : Item) : String.join (pieces item) = line item := by
  cases item with
  | exception c m => cases m <;> simp [pieces, line, String.join_cons, String.append_assoc]
  | text s => simp [pieces, line]
  | dump s => simp [pieces, line, String.join_cons]
  | clear => rfl

/-- The pieces that have characters. -/
def solid (ps : List String) : List String := ps.filter (· ≠ "")

theorem empty_notMem_solid (ps : List String) : "" ∉ solid ps := by
  simp [solid]

theorem solid_cons_empty (ps : List String) : solid ("" :: ps) = solid ps := rfl

theorem solid_cons {s : String} (h : s ≠ "") (ps : List String) :
    solid (s :: ps) = s :: solid ps := by
  simp [solid, h]

theorem join_solid (ps : List String) : String.join (solid ps) = String.join ps := by
  induction ps with
  | nil => rfl
  | cons s ps ih =>
    by_cases hs : s = ""
    · rw [hs, solid_cons_empty, ih, String.join_cons, String.empty_append]
    · rw [solid_cons hs, String.join_cons, String.join_cons, ih]

/-! ## Calls to the device -/

theorem held_eq (w : Writer) : w.held = w := by
  unfold held lock
  cases w.isPoisoned <;> rfl

theorem call_done {c : Device.Call} (h : d.answer c = .done) (w : Writer) :
    w.call d c = ({ w with calls := w.calls ++ [c] }.perform c, .done) := by
  unfold call
  rw [h]

theorem call_broken {c : Device.Call} (h : d.answer c ≠ .done) (w : Writer) :
    w.call d c = ({ w with calls := w.calls ++ [c] }, d.answer c) := by
  unfold call
  cases hanswer : d.answer c with
  | done => exact absurd hanswer h
  | failed error => rfl
  | panicked p => rfl

/-- While writing works, or where there is nothing to write, all pieces are written. -/
theorem writeAll_flushed (h : String.join ps = "" ∨ d.write = .done) (w : Writer) :
    w.writeAll d ps =
      ({ w with
          written := w.written ++ String.join ps
          calls := w.calls ++ (solid ps).map .write },
        .done) := by
  induction ps generalizing w with
  | nil => simp [writeAll, solid]
  | cons s ps ih =>
    rw [String.join_cons, String.append_eq_empty_iff] at h
    rw [writeAll]
    by_cases hs : s = ""
    · rw [if_pos hs, ih (h.imp_left And.right), hs, solid_cons_empty, String.join_cons,
        String.empty_append]
    · have hwrite : d.write = .done := h.resolve_left fun hempty => hs hempty.1
      rw [if_neg hs, call_done (show d.answer (.write s) = .done from hwrite)]
      dsimp only
      rw [ih (.inr hwrite), solid_cons hs, String.join_cons]
      simp [perform, String.append_assoc]

/-- Where writing does not work, the first piece with characters is tried and nothing is written. -/
theorem writeAll_lost (h : d.write ≠ .done) (hps : String.join ps ≠ "") :
    ∃ s, s ≠ "" ∧
      ∀ w : Writer, w.writeAll d ps = ({ w with calls := w.calls ++ [.write s] }, d.write) := by
  induction ps with
  | nil => exact absurd rfl hps
  | cons s ps ih =>
    by_cases hs : s = ""
    · rw [String.join_cons, hs, String.empty_append] at hps
      obtain ⟨s', hne, hall⟩ := ih hps
      exact ⟨s', hne, fun w => by rw [writeAll, if_pos hs, hall]⟩
    · refine ⟨s, hs, fun w => ?_⟩
      rw [writeAll, if_neg hs, call_broken (show d.answer (.write s) ≠ .done from h)]
      dsimp only [Device.answer]
      cases hwrite : d.write with
      | done => exact absurd hwrite h
      | failed error => rfl
      | panicked p => rfl

/-! ## Items -/

/-- An item that has no text, or is written, is flushed. -/
theorem render_flushed (h : line item = "" ∨ d.write = .done) (w : Writer) :
    w.render d item =
      ({ written := w.written ++ line item
         flushes := w.flushes + if d.flush = .done then 1 else 0
         calls := w.calls ++ ((solid (pieces item)).map .write ++ [.flush])
         isPoisoned := w.isPoisoned || (reaction d.flush).panic.isSome },
        reaction d.flush) := by
  rw [← join_pieces] at h
  unfold render put
  rw [held_eq, writeAll_flushed h, join_pieces]
  dsimp only
  by_cases hflush : d.flush = .done
  · rw [call_done (show d.answer .flush = .done from hflush)]
    simp [perform, hflush]
  · rw [call_broken (show d.answer .flush ≠ .done from hflush)]
    simp [Device.answer, hflush]

/-- An item that has text and is not written is not flushed either. -/
theorem render_lost (hline : line item ≠ "") (h : d.write ≠ .done) :
    ∃ s, s ≠ "" ∧
      ∀ w : Writer, w.render d item =
        ({ w with
            calls := w.calls ++ [.write s]
            isPoisoned := w.isPoisoned || (reaction d.write).panic.isSome },
          reaction d.write) := by
  rw [← join_pieces] at hline
  obtain ⟨s, hs, hall⟩ := writeAll_lost h hline
  refine ⟨s, hs, fun w => ?_⟩
  unfold render put
  rw [held_eq, hall]
  cases hwrite : d.write with
  | done => exact absurd hwrite h
  | failed error => rfl
  | panicked p => rfl

/-- An item is handled as on a writer that nothing ever happened to. -/
theorem render_eq (d : Device) (w : Writer) (item : Item) :
    (w.render d item).1.written =
      w.written ++ (if d.write = .done then line item else "") ∧
    (w.render d item).1.calls = w.calls ++ (empty.render d item).1.calls ∧
    (w.render d item).1.isPoisoned =
      (w.isPoisoned || (empty.render d item).2.panic.isSome) ∧
    (w.render d item).2 = (empty.render d item).2 := by
  by_cases h : line item = "" ∨ d.write = .done
  · rw [render_flushed h, render_flushed h]
    refine ⟨?_, rfl, rfl, rfl⟩
    by_cases hwrite : d.write = .done
    · rw [if_pos hwrite]
    · rw [if_neg hwrite, h.resolve_right hwrite]
  · rw [not_or] at h
    obtain ⟨s, -, hall⟩ := render_lost h.1 h.2
    rw [hall, hall, if_neg h.2, String.append_empty]
    exact ⟨rfl, rfl, rfl, rfl⟩

/-! ## Items one after the other -/

/-- Hands over an item, together with what the device does with it. -/
def take (w : Writer) (input : Device × Item) : Writer × Reaction := w.render input.1 input.2

/-- What items on the way leave of a writer. -/
structure Tells (past : List (Visit Writer (Device × Item) Reaction)) (w : Writer) : Prop where
  written : w.written = String.join
    (((past.map Visit.input).filter fun i => i.1.write = .done).map fun i => line i.2)
  calls : w.calls = (past.map Visit.input).flatMap fun i => (empty.take i).1.calls
  isPoisoned : w.isPoisoned = (past.map Visit.input).any fun i => (empty.take i).2.panic.isSome
  output : ∀ v ∈ past, v.output = (empty.take v.input).2

theorem tells_empty : Tells [] empty := ⟨rfl, rfl, rfl, List.forall_mem_nil _⟩

theorem Tells.take {past : List (Visit Writer (Device × Item) Reaction)} {w : Writer}
    (h : Tells past w) (i : Device × Item) :
    Tells (past ++ [visit Writer.take w i]) (w.take i).1 := by
  obtain ⟨hwritten, hcalls, hpoisoned, houtput⟩ := render_eq i.1 w i.2
  have hinputs : (past ++ [visit Writer.take w i]).map Visit.input =
      past.map Visit.input ++ [i] := List.map_append
  refine ⟨?_, ?_, ?_, ?_⟩
  · rw [hinputs, List.filter_append, List.map_append, String.join_append, ← h.written]
    refine hwritten.trans (congrArg (w.written ++ ·) ?_)
    by_cases hwrite : i.1.write = .done <;> simp [hwrite]
  · rw [hinputs, List.flatMap_append, ← h.calls, List.flatMap_singleton]
    exact hcalls
  · rw [hinputs, List.any_append, ← h.isPoisoned, List.any_cons, List.any_nil, Bool.or_false]
    exact hpoisoned
  · intro v hv
    rcases List.mem_append.mp hv with hv | hv
    · exact h.output v hv
    · rw [List.mem_singleton.mp hv]
      exact houtput

/-- Whatever the items are, and whatever the device does with each of them: what is written is the
text of the items for which writing worked, one after the other. An item is handled as if nothing
had happened before it, be the lock poisoned or not: it makes the calls and has the reaction that it
has on a writer of its own. There an item that has no text, or for which writing works, is written
in pieces and then flushed once; any other is tried with one piece, and not flushed. A call that
fails is the last for its item, and is logged in one record with its error; a panic is not. -/
theorem items_written_whole (inputs : List (Device × Item)) :
    let w := stateAfter take empty inputs
    w.written =
      String.join ((inputs.filter fun i => i.1.write = .done).map fun i => line i.2) ∧
    w.calls = inputs.flatMap (fun i => (empty.render i.1 i.2).1.calls) ∧
    w.isPoisoned = inputs.any (fun i => (empty.render i.1 i.2).2.panic.isSome) ∧
    (∀ v ∈ visits take empty inputs, v.output = (empty.render v.input.1 v.input.2).2) ∧
    ∀ d item,
      (line item = "" ∨ d.write = .done →
        (∃ ps, "" ∉ ps ∧ String.join ps = line item ∧
          (empty.render d item).1.calls = ps.map .write ++ [.flush]) ∧
        (empty.render d item).2 = ⟨warnings d.flush, panic? d.flush⟩) ∧
      (line item ≠ "" → d.write ≠ .done →
        (∃ s, s ≠ "" ∧ (empty.render d item).1.calls = [.write s]) ∧
        (empty.render d item).2 = ⟨warnings d.write, panic? d.write⟩) := by
  intro w
  have htells : Tells (visits take empty inputs) w :=
    visits_induction (P := Tells) (fun _ _ i h => h.take i) tells_empty inputs
  have hinputs : (visits take empty inputs).map Visit.input = inputs := map_input_visits _ inputs
  obtain ⟨hwritten, hcalls, hpoisoned, houtput⟩ := htells
  rw [hinputs] at hwritten hcalls hpoisoned
  refine ⟨hwritten, hcalls, hpoisoned, houtput, fun d item => ⟨fun h => ?_, fun hline h => ?_⟩⟩
  · have hjoin := (join_solid (pieces item)).trans (join_pieces item)
    rw [render_flushed h]
    exact ⟨⟨_, empty_notMem_solid _, hjoin, rfl⟩, reaction_eq d.flush⟩
  · obtain ⟨s, hs, hall⟩ := render_lost hline h
    rw [hall]
    exact ⟨⟨s, hs, rfl⟩, reaction_eq d.write⟩

/-- A panic and a failed flush among items that are written: the last is written as if on its own. -/
theorem items_written_whole_brief :
    let inputs : List (Device × Item) :=
      [(Mode.ok.device, .text "a"), (Mode.panic.device, .dump "b"),
        (Mode.flushFail.device, .clear), (Mode.ok.device, .exception "E" (some ""))]
    let w := stateAfter take empty inputs
    w.written = "aE: \n" ∧ w.isPoisoned = true ∧
    w.calls = [.write "a", .flush, .write "b", .flush, .write "E", .write ": ", .write "\n", .flush] ∧
    (∃ v ∈ visits take empty inputs, v.output = ⟨[failureRecord "flush failed"], none⟩) ∧
    (∃ ps, "" ∉ ps ∧ String.join ps = "E: \n" ∧
      (empty.render Mode.ok.device (.exception "E" (some ""))).1.calls = ps.map .write ++ [.flush]) ∧
    (empty.render Mode.panic.device (.dump "b")).2 = ⟨[], some (.message "writer panicked")⟩ := by
  intro inputs w
  obtain ⟨hwritten, hcalls, hpoisoned, houtput, hitem⟩ := items_written_whole inputs
  have hthird : ∃ v ∈ visits take empty inputs, v.input = (Mode.flushFail.device, .clear) :=
    ⟨_, List.mem_cons_of_mem _ (List.mem_cons_of_mem _ List.mem_cons_self), rfl⟩
  obtain ⟨v, hv, hinput⟩ := hthird
  have hflush := (hitem Mode.flushFail.device .clear).1 (.inl rfl)
  have hlast := (hitem Mode.ok.device (.exception "E" (some ""))).1 (.inr rfl)
  have hpanic := (hitem Mode.panic.device (.dump "b")).2 (by decide) (by decide)
  refine ⟨hwritten.trans (by decide), hpoisoned.trans (by decide), hcalls.trans (by decide),
    ⟨v, hv, ?_⟩, hlast.1, hpanic.2⟩
  rw [houtput v hv, hinput]
  exact hflush.2

end RemoteConsole.Writer
