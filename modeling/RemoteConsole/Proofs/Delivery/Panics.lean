import RemoteConsole.Proofs.Delivery.Laws
import RemoteConsole.Proofs.Health.Laws
import RemoteConsole.Proofs.Visits

/-!
# Deliveries after a hook has panicked

A hook that panics breaks off the delivery that called it. The console can be delivered to again,
and what had been done is not undone.

* `Handover`, `Delivery.accept`: a delivery with the monitor that it is given.
* `Delivery.Counted`: the hooks were told of the close once if the console is closed, and not at all
  otherwise. `Delivery.Orderly`: a delivery left it so, and closed the console if it says stop.
* `Delivery.orderly_process`: every delivery does, whichever hooks panic in it.
* `Delivery.told_of_close_once`: any number of deliveries, any of them panicking.
-/

namespace RemoteConsole

namespace Chunk

/-- A fetch brought a chunk with a shutdown in it. -/
def HasShutdown (chunk : Option Chunk) : Prop :=
  ∃ c, chunk = some c ∧ ∃ clean, .shutdown clean ∈ c.tips

theorem isSome_bind_notice?_iff (chunk : Option Chunk) :
    (chunk.bind notice?).isSome = true ↔ HasShutdown chunk := by
  cases chunk with
  | none => exact ⟨nofun, fun ⟨_, h, _⟩ => nomatch h⟩
  | some c =>
    rw [Option.bind_some, isSome_notice?_iff]
    constructor
    · exact fun h => ⟨c, rfl, h⟩
    · rintro ⟨_, ⟨⟩, h⟩
      exact h

end Chunk

/-- What is handed over to be delivered: what a fetch brought, and the monitor of the health
signal. -/
structure Handover where
  chunk : Option Chunk
  health : Health.Monitor

namespace Delivery

/-- Delivers what is handed over. -/
def accept (s : Setting) (d : Delivery) (h : Handover) : Delivery × Ending :=
  process s h.chunk { d with health := h.health }

/-- The hooks were told of the close once if the console is closed, and not at all otherwise. -/
def Counted (d : Delivery) : Prop :=
  d.outlet.journal.count .closed = if d.isClosed then 1 else 0

/-- A delivery left the count of closes right, and the console closed if it says stop. -/
structure Orderly (r : Delivery × Ending) : Prop where
  counted : r.1.Counted
  closed : r.2 = .flow .stop → r.1.isClosed = true

theorem counted_fresh (health : Health.Monitor) : (fresh health).Counted := rfl

theorem Counted.le_one {d : Delivery} (h : d.Counted) : d.outlet.journal.count .closed ≤ 1 := by
  rw [h]
  split
  · exact Nat.le_refl 1
  · exact Nat.zero_le 1

/-- A console is closed if and only if the hooks were told of it. -/
theorem Counted.isClosed_iff {d : Delivery} (h : d.Counted) :
    d.isClosed = true ↔ .closed ∈ d.outlet.journal := by
  rw [← List.count_pos_iff, h]
  cases d.isClosed with
  | true => exact ⟨fun _ => Nat.one_pos, fun _ => rfl⟩
  | false => exact ⟨nofun, nofun⟩

section

variable (s : Setting) {d : Delivery} {h : Handover}

theorem accept_shown :
    (accept s d h).1.outlet.shown = d.outlet.shown ++
      s.passed (s.converter.itemsAfter d.outlet.converted (Chunk.contentsIn h.chunk)) :=
  process_shown s h.chunk _

theorem accept_health_of_shutdown (hs : Chunk.HasShutdown h.chunk) :
    (accept s d h).1.health = h.health.disable :=
  (process_health s h.chunk _).trans (if_pos ((Chunk.isSome_bind_notice?_iff _).mpr hs))

theorem accept_health_of_not_shutdown (hs : ¬ Chunk.HasShutdown h.chunk) :
    (accept s d h).1.health = h.health :=
  (process_health s h.chunk _).trans (if_neg fun hn => hs ((Chunk.isSome_bind_notice?_iff _).mp hn))

end

section

variable {s : Setting} {panics : Hooks} (hooks : s.hooks = some panics)
include hooks

/-- A call to a hook is in the journal, whether or not the hook panics. -/
theorem callThen_of_hooks (e : Entry) (next : Delivery → Delivery × Ending) (d : Delivery) :
    callThen s e next d =
      if panics d.outlet.journal e then ({ d with outlet := d.outlet.note e }, .panicked)
      else next { d with outlet := d.outlet.note e } := by
  unfold callThen Setting.call
  rw [hooks]
  dsimp only
  cases panics d.outlet.journal e <;> rfl

theorem orderly_callThen {e : Entry} (he : e ≠ .closed) {next : Delivery → Delivery × Ending}
    (hnext : ∀ d, d.Counted → Orderly (next d)) {d : Delivery} (h : d.Counted) :
    Orderly (callThen s e next d) := by
  have hnoted : Counted { d with outlet := d.outlet.note e } := by
    show (d.outlet.journal ++ [e]).count Entry.closed = _
    rw [List.count_append, List.count_singleton, beq_false_of_ne he]
    exact h
  rw [callThen_of_hooks hooks]
  split
  · exact ⟨hnoted, nofun⟩
  · exact hnext _ hnoted

/-- The console is marked as closed before the hook is called, so that a panic of it counts. -/
theorem orderly_finish {d : Delivery} (h : d.Counted) : Orderly (finish s d) := by
  unfold finish
  cases hc : d.isClosed with
  | true => exact ⟨h, fun _ => hc⟩
  | false =>
    have hnoted : Counted ⟨true, d.health, d.outlet.note .closed⟩ := by
      show (d.outlet.journal ++ [Entry.closed]).count .closed = 1
      rw [List.count_append, h, hc]
      rfl
    rw [if_neg Bool.false_ne_true, callThen_of_hooks hooks]
    split
    · exact ⟨hnoted, nofun⟩
    · exact ⟨hnoted, fun _ => rfl⟩

theorem orderly_shutdown (clean : Bool) {d : Delivery} (h : d.Counted) :
    Orderly (shutdown s clean d) := by
  have hunload : ∀ d : Delivery, d.Counted →
      Orderly (callThen s (.unloaded s.session) (finish s) d) :=
    fun _ hd => orderly_callThen hooks Entry.noConfusion (fun _ => orderly_finish hooks) hd
  unfold shutdown
  dsimp only
  split
  · exact orderly_callThen hooks Entry.noConfusion hunload h
  · exact hunload _ h

theorem orderly_process (chunk : Option Chunk) {d : Delivery} (h : d.Counted) :
    Orderly (process s chunk d) := by
  cases chunk with
  | none => exact orderly_finish hooks h
  | some c =>
    have hleaves : (dispatched s c.leaves d).Counted := by
      show (s.dispatchAll c.leaves d.outlet).journal.count .closed = _
      rw [s.dispatchAll_journal]
      exact h
    rw [process, deliver_eq]
    cases c.notice? with
    | none => exact ⟨hleaves, fun h => by cases h⟩
    | some clean => exact orderly_shutdown hooks clean hleaves

theorem orderly_visits {d : Delivery} (h : d.Counted) (handovers : List Handover) :
    (stateAfter (accept s) d handovers).Counted ∧
      ∀ v ∈ visits (accept s) d handovers, Orderly (v.after, v.output) := by
  refine forall_visits (fun d i hd => ?_) h handovers
  have horderly : Orderly (accept s d i) := orderly_process hooks i.chunk hd
  exact ⟨horderly.counted, horderly⟩

/-- Whatever is delivered, whichever hooks panic in whichever deliveries, and with the console
delivered to afterwards: the hooks are told of the close at most once, and were told of it if and
only if the console is closed. Every delivery that says stop leaves it closed; and every delivery,
a panicking one too, has shown the items of the leaves before the first shutdown, and has turned the
health signal off if there was a shutdown, and only then touched it. -/
theorem told_of_close_once (health : Health.Monitor) (handovers : List Handover) :
    let last := stateAfter (accept s) (fresh health) handovers
    last.outlet.journal.count .closed ≤ 1 ∧
    (last.isClosed = true ↔ .closed ∈ last.outlet.journal) ∧
    ∀ v ∈ visits (accept s) (fresh health) handovers,
      (v.after.isClosed = true ↔ .closed ∈ v.after.outlet.journal) ∧
      (v.output = .flow .stop → v.after.isClosed = true) ∧
      v.after.outlet.shown = v.before.outlet.shown ++
        s.passed (s.converter.itemsAfter v.before.outlet.converted
          (Chunk.contentsIn v.input.chunk)) ∧
      (Chunk.HasShutdown v.input.chunk →
        v.after.health = v.input.health.disable ∧ v.after.health.IsOff) ∧
      (¬ Chunk.HasShutdown v.input.chunk → v.after.health = v.input.health) := by
  intro last
  have hrun : last.Counted ∧
      ∀ v ∈ visits (accept s) (fresh health) handovers, Orderly (v.after, v.output) :=
    orderly_visits hooks (counted_fresh health) handovers
  refine ⟨hrun.1.le_one, hrun.1.isClosed_iff, fun v hv => ?_⟩
  have horderly := hrun.2 v hv
  have hafter : v.after = (accept s v.before v.input).1 := congrArg Visit.after (eq_visit_of_mem hv)
  refine ⟨horderly.counted.isClosed_iff, horderly.closed, ?_, fun h => ?_, fun h => ?_⟩
  · rw [hafter, accept_shown]
  · rw [hafter, accept_health_of_shutdown s h]
    exact ⟨rfl, v.input.health.isOff_disable⟩
  · rw [hafter, accept_health_of_not_shutdown s h]

end

/-- Each of the three hooks panics the first time that it is called. The close is told of in the
third delivery, and the fourth finds the console closed. -/
theorem told_of_close_once_brief :
    let s : Setting := ⟨⟨"app-1"⟩, .standard, some fun _ _ => .quiet,
      some fun journal e => !journal.contains e⟩
    let on : Health.Monitor := .ofDebounce 1000
    let late : Chunk := .batch [.text "late", .batch [.shutdown true, .text "lost"]]
    let handovers : List Handover := [⟨some late, on⟩, ⟨some late, on⟩, ⟨some late, on⟩, ⟨none, on⟩]
    s.hooks.isSome = true ∧
    (visits (accept s) (fresh on) handovers).map Visit.output =
      [.panicked, .panicked, .panicked, .flow .stop] ∧
    (stateAfter (accept s) (fresh on) handovers).outlet.journal.count .closed ≤ 1 ∧
    .closed ∈ (stateAfter (accept s) (fresh on) handovers).outlet.journal ∧
    ∀ v ∈ visits (accept s) (fresh on) handovers, v.input.chunk = some late →
      v.after.outlet.shown = v.before.outlet.shown ++ [.text "late"] ∧ v.after.health.IsOff := by
  intro s on late handovers
  obtain ⟨honce, hclosed, hvisits⟩ := told_of_close_once (s := s) rfl on handovers
  refine ⟨rfl, by decide +kernel, honce, hclosed.mp (by decide +kernel), fun v hv hlate => ?_⟩
  have hshutdown : .shutdown true ∈ late.tips := .tail _ (.head _)
  obtain ⟨-, -, hshown, hoff, -⟩ := hvisits v hv
  rw [hlate] at hshown hoff
  exact ⟨hshown, (hoff ⟨late, rfl, true, hshutdown⟩).2⟩

end Delivery

end RemoteConsole
