import RemoteConsole.Delivery
import RemoteConsole.Proofs.Chunk.Tips

/-!
# What a delivery does

* `Converter.itemsAfter`: the items that chunks become, converted one after the other. A rule makes
  the same items of a chunk whatever came before it (`Rule.itemsAfter_eq`).
* `Delivery.deliver_eq`: to deliver a chunk is to dispatch its leaves in order and then, if it has a
  notice, to shut down. It holds of every converter, display and hook.
* `Delivery.process_seen`: what a delivery does to all that no hook has a part in: the health signal
  (`process_health`), the chunks converted and the items shown (`process_content`), and the records
  (`process_records`).
* `Delivery.process_continue_iff`: when the stream goes on after a delivery.
* `Setting.HooksReturn`: no hook panics. Then `finish_eq` and `shutdown_eq` give the whole state
  after the end of a stream.
-/

namespace RemoteConsole

/-- The texts and records of what a fetch brought, before the first shutdown notice. -/
def Chunk.contentsIn : Option Chunk → List Chunk
  | some c => contentsOf c.tips
  | none => []

theorem Chunk.isContent_of_mem_contentsIn {chunk : Option Chunk} {c : Chunk}
    (h : c ∈ contentsIn chunk) : c.isContent = true := by
  cases chunk with
  | none => cases h
  | some _ => exact isContent_of_mem_contentsOf h

namespace Converter

variable (k : Converter)

/-- The item that a chunk is converted to, if it is converted to one. -/
def item? (past : List Chunk) (c : Chunk) : Option Item :=
  match k.convert past c with
  | .item item => some item
  | .nothing => none
  | .failed _ => none
  | .panicked _ => none

/-- The items of chunks that are converted one after the other. -/
def itemsAfter : List Chunk → List Chunk → List Item
  | _, [] => []
  | past, c :: cs => (k.item? past c).toList ++ itemsAfter (past ++ [c]) cs

theorem itemsAfter_append (past as bs : List Chunk) :
    k.itemsAfter past (as ++ bs) = k.itemsAfter past as ++ k.itemsAfter (past ++ as) bs := by
  induction as generalizing past with
  | nil => rw [List.append_nil]; rfl
  | cons c as ih =>
    rw [List.cons_append, itemsAfter, itemsAfter, ih, List.append_assoc, List.append_assoc]
    rfl

namespace Rule

variable (rule : Rule)

/-- The item that the rule makes of a chunk, if it makes one. -/
def item? (c : Chunk) : Option Item := Converter.item? rule [] c

/-- The items of a chunk: those of its texts and records before the first shutdown notice. -/
def items (c : Chunk) : List Item := (Chunk.contentsOf c.tips).filterMap rule.item?

/-- The items of what a fetch brought. -/
def itemsOf : Option Chunk → List Item
  | some c => rule.items c
  | none => []

theorem itemsOf_eq (chunk : Option Chunk) :
    rule.itemsOf chunk = (Chunk.contentsIn chunk).filterMap rule.item? := by
  cases chunk <;> rfl

/-- A rule makes the same of a chunk whatever was converted before. -/
theorem itemsAfter_eq (past cs : List Chunk) :
    Converter.itemsAfter rule past cs = cs.filterMap rule.item? := by
  induction cs generalizing past with
  | nil => rfl
  | cons c cs ih =>
    have hitem : Converter.item? rule past c = rule.item? c := rfl
    rw [itemsAfter, hitem, ih, List.filterMap_cons]
    cases rule.item? c <;> rfl

theorem itemsAfter_contentsIn (past : List Chunk) (chunk : Option Chunk) :
    Converter.itemsAfter rule past (Chunk.contentsIn chunk) = rule.itemsOf chunk := by
  rw [itemsAfter_eq, itemsOf_eq]

/-- The items of all that was fetched, one after the other. -/
theorem itemsAfter_flatMap (past : List Chunk) (chunks : List (Option Chunk)) :
    Converter.itemsAfter rule past (chunks.flatMap Chunk.contentsIn) =
      chunks.flatMap rule.itemsOf := by
  induction chunks generalizing past with
  | nil => rfl
  | cons chunk chunks ih =>
    rw [List.flatMap_cons, List.flatMap_cons, itemsAfter_append, itemsAfter_contentsIn, ih]

end Rule

end Converter

namespace Setting

variable (s : Setting)

/-- Dispatches chunks in order. -/
def dispatchAll (cs : List Chunk) (o : Outlet) : Outlet := cs.foldl (fun o c => s.dispatch c o) o

/-- What a display is passed of the items, if there is one. -/
def passed (items : List Item) : List Item := if s.display.isSome then items else []

/-- No hook panics. -/
def HooksReturn : Prop :=
  ∀ panics, s.hooks = some panics → ∀ journal e, panics journal e = false

/-- What calls to hooks add to the journal. -/
def heard (es : List Entry) : List Entry := if s.hooks.isSome then es else []

theorem passed_append (as bs : List Item) : s.passed (as ++ bs) = s.passed as ++ s.passed bs := by
  unfold passed; split <;> rfl

theorem passed_nil : s.passed [] = [] := ite_self _

theorem heard_append (as bs : List Entry) : s.heard (as ++ bs) = s.heard as ++ s.heard bs := by
  unfold heard; split <;> rfl

theorem heard_nil : s.heard [] = [] := ite_self _

/-! ## Items -/

theorem present_content (item : Item) (o : Outlet) :
    (s.present item o).content = (o.converted, o.shown ++ s.passed [item]) := by
  unfold present passed
  cases s.display with
  | none => exact congrArg (Prod.mk o.converted) (List.append_nil _).symm
  | some display => dsimp only; split <;> rfl

theorem present_journal (item : Item) (o : Outlet) : (s.present item o).journal = o.journal := by
  unfold present
  cases s.display with
  | none => rfl
  | some display => dsimp only; split <;> rfl

theorem dispatch_content (c : Chunk) (o : Outlet) :
    (s.dispatch c o).content =
      (o.converted ++ [c], o.shown ++ s.passed (s.converter.item? o.converted c).toList) := by
  unfold dispatch Converter.item?
  dsimp only
  cases s.converter.convert o.converted c with
  | item item => exact s.present_content item _
  | nothing => simp only [Option.toList, passed_nil, List.append_nil]; rfl
  | failed => simp only [Option.toList, passed_nil, List.append_nil]; rfl
  | panicked => simp only [Option.toList, passed_nil, List.append_nil]; rfl

theorem dispatch_converted (c : Chunk) (o : Outlet) :
    (s.dispatch c o).converted = o.converted ++ [c] := congrArg Prod.fst (s.dispatch_content c o)

theorem dispatch_shown (c : Chunk) (o : Outlet) :
    (s.dispatch c o).shown = o.shown ++ s.passed (s.converter.item? o.converted c).toList :=
  congrArg Prod.snd (s.dispatch_content c o)

theorem dispatch_journal (c : Chunk) (o : Outlet) : (s.dispatch c o).journal = o.journal := by
  unfold dispatch
  dsimp only
  cases s.converter.convert o.converted c with
  | item item => exact s.present_journal item _
  | nothing => rfl
  | failed => rfl
  | panicked => rfl

theorem dispatchAll_content (cs : List Chunk) (o : Outlet) :
    (s.dispatchAll cs o).content =
      (o.converted ++ cs, o.shown ++ s.passed (s.converter.itemsAfter o.converted cs)) := by
  induction cs generalizing o with
  | nil => rw [Converter.itemsAfter, passed_nil, List.append_nil, List.append_nil]; rfl
  | cons c cs ih =>
    have hstep : (s.dispatchAll (c :: cs) o).content =
        (s.dispatchAll cs (s.dispatch c o)).content := rfl
    rw [hstep, ih, dispatch_converted, dispatch_shown, Converter.itemsAfter, passed_append,
      List.append_assoc, List.append_assoc]
    rfl

theorem dispatchAll_journal (cs : List Chunk) (o : Outlet) :
    (s.dispatchAll cs o).journal = o.journal := by
  induction cs generalizing o with
  | nil => rfl
  | cons c cs ih => exact (ih _).trans (s.dispatch_journal c o)

theorem dispatchAll_append (as bs : List Chunk) (o : Outlet) :
    s.dispatchAll (as ++ bs) o = s.dispatchAll bs (s.dispatchAll as o) :=
  List.foldl_append

variable {s}

/-! ## Hooks -/

theorem call_eq (h : s.HooksReturn) (e : Entry) (o : Outlet) :
    s.call e o = ({ o with journal := o.journal ++ s.heard [e] }, true) := by
  unfold call heard
  cases hh : s.hooks with
  | none => simp only [Option.isSome_none, Bool.false_eq_true, ↓reduceIte, List.append_nil]
  | some panics => simp only [h panics hh, Bool.not_false]; rfl

end Setting

namespace Delivery

/-- A console that nothing has been delivered to. -/
def fresh (health : Health.Monitor) : Delivery := ⟨false, health, .empty⟩

variable (s : Setting)

theorem callThen_eq {s : Setting} (h : s.HooksReturn) (e : Entry)
    (next : Delivery → Delivery × Ending) (d : Delivery) :
    callThen s e next d =
      next { d with outlet := { d.outlet with journal := d.outlet.journal ++ s.heard [e] } } := by
  unfold callThen
  rw [Setting.call_eq h]
  rfl

/-! ## A chunk is its leaves and its notice -/

theorem finish_ne_continue (d : Delivery) : (finish s d).2 ≠ .flow .continue := by
  unfold finish callThen
  split
  · exact fun h => by cases h
  · dsimp only; split <;> exact fun h => by cases h

theorem shutdown_ne_continue (clean : Bool) (d : Delivery) :
    (shutdown s clean d).2 ≠ .flow .continue := by
  have hunload : ∀ d, (callThen s (.unloaded s.session) (finish s) d).2 ≠ .flow .continue := by
    intro d
    unfold callThen
    dsimp only
    split
    · exact finish_ne_continue s _
    · exact fun h => by cases h
  unfold shutdown
  dsimp only
  split
  · rw [callThen]
    dsimp only
    split
    · exact hunload _
    · exact fun h => by cases h
  · exact hunload _

/-- What becomes of a delivery when the leaves have been dispatched and the notice is at hand. -/
def conclude (notice : Option Bool) (d : Delivery) : Delivery × Ending :=
  match notice with
  | none => (d, .flow .continue)
  | some clean => shutdown s clean d

/-- The delivery with leaves dispatched. -/
def dispatched (cs : List Chunk) (d : Delivery) : Delivery :=
  { d with outlet := s.dispatchAll cs d.outlet }

mutual

theorem deliver_eq (c : Chunk) (d : Delivery) :
    deliver s c d = conclude s c.notice? (dispatched s c.leaves d) := by
  cases c with
  | empty => rfl
  | text => rfl
  | record => rfl
  | batch cs => rw [deliver, Chunk.notice?, Chunk.leaves, deliverAll_eq cs d]
  | shutdown => rfl

theorem deliverAll_eq (cs : List Chunk) (d : Delivery) :
    deliverAll s cs d =
      conclude s (Chunk.firstNotice? cs) (dispatched s (Chunk.leavesOf cs) d) := by
  match cs with
  | [] => rfl
  | c :: rest =>
    rw [deliverAll, deliver_eq c d, Chunk.firstNotice?, Chunk.leavesOf]
    cases hn : c.notice? with
    | none =>
      have hleaves : dispatched s (Chunk.leavesOf rest) (dispatched s c.leaves d) =
          dispatched s (c.leaves ++ Chunk.leavesOf rest) d := by
        unfold dispatched; rw [Setting.dispatchAll_append]
      simp only [conclude, Option.isSome_none, Bool.false_eq_true, ↓reduceIte]
      rw [deliverAll_eq rest, hleaves]
      rfl
    | some clean =>
      -- The first notice ends the loop over the siblings, whatever became of the hooks.
      have hend := shutdown_ne_continue s clean (dispatched s c.leaves d)
      simp only [conclude, Option.isSome_some, ↓reduceIte, List.append_nil]
      generalize shutdown s clean (dispatched s c.leaves d) = r at hend ⊢
      obtain ⟨d', ending⟩ := r
      cases ending with
      | panicked => rfl
      | flow f =>
        cases f with
        | «continue» => exact absurd rfl hend
        | stop => rfl

end

/-! ## What hooks cannot change -/

/-- What no hook has a part in: the health signal, the content, and the records. -/
def seen (d : Delivery) : Health.Monitor × (List Chunk × List Item) × List Log.Record :=
  (d.health, d.outlet.content, d.outlet.records)

theorem callThen_seen {e : Entry} {next : Delivery → Delivery × Ending}
    (h : ∀ d, (next d).1.seen = d.seen) (d : Delivery) :
    (callThen s e next d).1.seen = d.seen := by
  have hcall : seen { d with outlet := (s.call e d.outlet).1 } = d.seen := by
    unfold Setting.call; split <;> rfl
  unfold callThen
  dsimp only
  split
  · exact (h _).trans hcall
  · exact hcall

theorem finish_seen (d : Delivery) : (finish s d).1.seen = d.seen := by
  unfold finish
  split
  · rfl
  · exact callThen_seen s (fun _ => rfl) _

/-- The signal is turned off before the hooks are told, and they may panic. -/
theorem shutdown_seen (clean : Bool) (d : Delivery) :
    (shutdown s clean d).1.seen = (d.health.disable, d.outlet.content, d.outlet.records) := by
  unfold shutdown
  dsimp only
  split
  · exact callThen_seen s (callThen_seen s (finish_seen s)) _
  · exact callThen_seen s (finish_seen s) _

/-- A delivery dispatches the leaves of its chunk, and turns the health signal off if there is a
notice, whatever the hooks do. -/
theorem process_seen (chunk : Option Chunk) (d : Delivery) :
    (process s chunk d).1.seen =
      (if (chunk.bind Chunk.notice?).isSome then d.health.disable else d.health,
        (s.dispatchAll (Chunk.contentsIn chunk) d.outlet).content,
        (s.dispatchAll (Chunk.contentsIn chunk) d.outlet).records) := by
  cases chunk with
  | none => exact finish_seen s d
  | some c =>
    rw [process, deliver_eq, Option.bind_some, Chunk.contentsIn, ← Chunk.leaves_eq]
    cases c.notice? with
    | none => rfl
    | some clean => exact shutdown_seen s clean _

/-- Only a notice turns the health signal off. -/
theorem process_health (chunk : Option Chunk) (d : Delivery) :
    (process s chunk d).1.health =
      if (chunk.bind Chunk.notice?).isSome then d.health.disable else d.health :=
  congrArg Prod.fst (process_seen s chunk d)

/-- A delivery converts the leaves of its chunk and shows their items, whatever the hooks do. -/
theorem process_content (chunk : Option Chunk) (d : Delivery) :
    (process s chunk d).1.outlet.content =
      (d.outlet.converted ++ Chunk.contentsIn chunk, d.outlet.shown ++
        s.passed (s.converter.itemsAfter d.outlet.converted (Chunk.contentsIn chunk))) := by
  have hcontent : (process s chunk d).1.outlet.content =
      (s.dispatchAll (Chunk.contentsIn chunk) d.outlet).content :=
    congrArg (fun seen => seen.2.1) (process_seen s chunk d)
  rw [hcontent, Setting.dispatchAll_content]

theorem process_shown (chunk : Option Chunk) (d : Delivery) :
    (process s chunk d).1.outlet.shown = d.outlet.shown ++
      s.passed (s.converter.itemsAfter d.outlet.converted (Chunk.contentsIn chunk)) :=
  congrArg Prod.snd (process_content s chunk d)

/-- A delivery writes the records of its leaves, whatever the hooks do. -/
theorem process_records (chunk : Option Chunk) (d : Delivery) :
    (process s chunk d).1.outlet.records =
      (s.dispatchAll (Chunk.contentsIn chunk) d.outlet).records :=
  congrArg (fun seen => seen.2.2) (process_seen s chunk d)

/-! ## When the stream goes on -/

/-- A stream goes on after a delivery if and only if what was delivered gives no reason to close. -/
theorem process_continue_iff (chunk : Option Chunk) (d : Delivery) :
    (process s chunk d).2 = .flow .continue ↔ Lifecycle.reasonOf chunk = none := by
  cases chunk with
  | none => exact ⟨fun h => absurd h (finish_ne_continue s d), fun h => by cases h⟩
  | some c =>
    rw [process, deliver_eq, Lifecycle.reasonOf]
    cases c.notice? with
    | none => exact ⟨fun _ => rfl, fun _ => rfl⟩
    | some clean => exact ⟨fun h => absurd h (shutdown_ne_continue s clean _), fun h => by cases h⟩

variable {s}

/-! ## The end of a stream whose hooks return -/

/-- What hooks are told at the end: a notice first, and the close unless they know of it. -/
def farewell (s : Setting) (notice : Option Bool) (isClosed : Bool) : List Entry :=
  (match notice with
    | none => []
    | some clean => (if clean then [.suppressed] else []) ++ [.unloaded s.session]) ++
  if isClosed then [] else [.closed]

/-- The delivery after the end of the stream. -/
def ended (s : Setting) (notice : Option Bool) (d : Delivery) : Delivery where
  isClosed := true
  health := if notice.isSome then d.health.disable else d.health
  outlet := { d.outlet with
    journal := d.outlet.journal ++ s.heard (farewell s notice d.isClosed) }

theorem finish_eq (h : s.HooksReturn) (d : Delivery) :
    finish s d = (ended s none d, .flow .stop) := by
  unfold finish
  cases hc : d.isClosed with
  | true =>
    simp only [↓reduceIte, ended, farewell, hc, Option.isSome_none, Bool.false_eq_true]
    rw [List.append_nil, Setting.heard_nil, List.append_nil, ← hc]
  | false =>
    rw [if_neg (by simp), callThen_eq h]
    simp only [ended, farewell, hc, Option.isSome_none, Bool.false_eq_true, ↓reduceIte]
    rfl

theorem shutdown_eq (h : s.HooksReturn) (clean : Bool) (d : Delivery) :
    shutdown s clean d = (ended s (some clean) d, .flow .stop) := by
  unfold shutdown
  cases clean with
  | true =>
    rw [if_pos rfl, callThen_eq h, callThen_eq h, finish_eq h]
    simp only [ended, farewell, Option.isSome_none, Bool.false_eq_true, ↓reduceIte,
      Option.isSome_some, List.append_assoc, ← Setting.heard_append, List.nil_append]
  | false =>
    rw [if_neg (by simp), callThen_eq h, finish_eq h]
    simp only [ended, farewell, Option.isSome_none, Bool.false_eq_true, ↓reduceIte,
      Option.isSome_some, List.append_assoc, ← Setting.heard_append, List.nil_append]

/-- A delivery after which the stream goes on tells the hooks nothing. -/
theorem process_continue {chunk : Option Chunk} (hnone : Lifecycle.reasonOf chunk = none)
    (d : Delivery) :
    ∃ d', process s chunk d = (d', .flow .continue) ∧ d'.isClosed = d.isClosed ∧
      d'.outlet.journal = d.outlet.journal := by
  cases chunk with
  | none => cases hnone
  | some c =>
    have hnotice : c.notice? = none := Option.map_eq_none_iff.mp hnone
    refine ⟨dispatched s c.leaves d, ?_, rfl, s.dispatchAll_journal c.leaves d.outlet⟩
    rw [process, deliver_eq, hnotice]
    rfl

/-- The last delivery tells the hooks of the end. -/
theorem process_stop (h : s.HooksReturn) {chunk : Option Chunk}
    (hsome : Lifecycle.reasonOf chunk ≠ none) (d : Delivery) :
    ∃ d', process s chunk d = (d', .flow .stop) ∧
      d'.outlet.journal =
        d.outlet.journal ++ s.heard (farewell s (chunk.bind Chunk.notice?) d.isClosed) := by
  cases chunk with
  | none => exact ⟨_, finish_eq h d, rfl⟩
  | some c =>
    cases hnotice : c.notice? with
    | none => exact absurd (Option.map_eq_none_iff.mpr hnotice) hsome
    | some clean =>
      refine ⟨ended s (some clean) (dispatched s c.leaves d), ?_, ?_⟩
      · rw [process, deliver_eq, hnotice]
        exact shutdown_eq h clean _
      · show (s.dispatchAll c.leaves d.outlet).journal ++ _ = _
        rw [s.dispatchAll_journal, Option.bind_some, hnotice]
        rfl

/-- As long as the hooks return, every delivery does. -/
theorem process_returns (h : s.HooksReturn) (chunk : Option Chunk) (d : Delivery) :
    ∃ d' flow, process s chunk d = (d', .flow flow) := by
  by_cases hnone : Lifecycle.reasonOf chunk = none
  · obtain ⟨d', hprocess, -⟩ := process_continue (s := s) hnone d
    exact ⟨d', .continue, hprocess⟩
  · obtain ⟨d', hprocess, -⟩ := process_stop h hnone d
    exact ⟨d', .stop, hprocess⟩

/-- What the hooks and the display were told before makes no difference to a delivery. -/
theorem process_congr (h : s.HooksReturn) (chunk : Option Chunk) (d d' : Delivery)
    (hclosed : d'.isClosed = d.isClosed) (hhealth : d'.health = d.health) :
    (process s chunk d').1.isClosed = (process s chunk d).1.isClosed ∧
      (process s chunk d').1.health = (process s chunk d).1.health ∧
      (process s chunk d').2 = (process s chunk d).2 := by
  cases chunk with
  | none =>
    rw [process, process, finish_eq h, finish_eq h]
    exact ⟨rfl, hhealth, rfl⟩
  | some c =>
    rw [process, process, deliver_eq, deliver_eq]
    cases c.notice? with
    | none => exact ⟨hclosed, hhealth, rfl⟩
    | some clean =>
      rw [conclude, conclude, shutdown_eq h, shutdown_eq h]
      exact ⟨rfl, congrArg Health.Monitor.disable hhealth, rfl⟩

end Delivery

end RemoteConsole
