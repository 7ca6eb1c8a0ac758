import RemoteConsole.Proofs.Delivery.Laws
import RemoteConsole.Proofs.Health.Laws

/-!
# The first notice decides

A chunk is gone through twice: once in search of its first shutdown notice, and once to be
delivered. The two agree on every chunk.

* `Delivery.deliver_without_notice`, `deliver_with_notice`: all that a delivery does to the state
  beside the items and records of the leaves.
* `Delivery.notice_decides`: a delivery stops the stream if and only if there is a notice, and does
  nothing to hooks and health signal otherwise.
-/

namespace RemoteConsole

namespace Delivery

variable {s : Setting} {c : Chunk}

/-- Without a notice the leaves are dispatched, and that is all. -/
theorem deliver_without_notice (h : c.notice? = none) (d : Delivery) :
    process s (some c) d = (dispatched s c.leaves d, .flow .continue) := by
  rw [process, deliver_eq, h]
  rfl

/-- With a notice the leaves before it are dispatched, and then the stream is over. -/
theorem deliver_with_notice (hooks : s.HooksReturn) {clean : Bool} (h : c.notice? = some clean)
    (d : Delivery) :
    process s (some c) d = (ended s (some clean) (dispatched s c.leaves d), .flow .stop) := by
  rw [process, deliver_eq, h]
  exact shutdown_eq hooks clean _

/-- Whatever the converter and the display do, as long as the hooks return: a delivery stops the
stream if and only if its chunk has a notice. By the first notice the health signal is turned off,
the hooks are told of a clean one, then of the unload, and then of the close unless they know of it;
without a notice health signal and hooks are left alone. When the console was closed there is
nothing but the close to tell. -/
theorem notice_decides (hooks : s.HooksReturn) (d : Delivery) :
    (∀ c : Chunk, ∃ d' flow, process s (some c) d = (d', .flow flow) ∧
      (flow = .stop ↔ c.notice?.isSome = true) ∧
      (∀ clean, c.notice? = some clean → d'.health.IsOff ∧ d'.isClosed = true ∧
        d'.outlet.journal = d.outlet.journal ++
          s.heard ((if clean then [.suppressed] else []) ++ [.unloaded s.session] ++
            if d.isClosed then [] else [.closed])) ∧
      (c.notice? = none → d'.health = d.health ∧ d'.isClosed = d.isClosed ∧
        d'.outlet.journal = d.outlet.journal)) ∧
    ∃ d', process s none d = (d', .flow .stop) ∧ d'.health = d.health ∧ d'.isClosed = true ∧
      d'.outlet.journal =
        d.outlet.journal ++ s.heard (if d.isClosed then [] else [.closed]) := by
  constructor
  · intro c
    have hjournal : (dispatched s c.leaves d).outlet.journal = d.outlet.journal :=
      s.dispatchAll_journal c.leaves d.outlet
    cases hnotice : c.notice? with
    | none =>
      refine ⟨_, _, deliver_without_notice hnotice d, by simp, nofun, fun _ => ?_⟩
      exact ⟨rfl, rfl, hjournal⟩
    | some clean =>
      refine ⟨_, _, deliver_with_notice hooks hnotice d, by simp, ?_, nofun⟩
      intro first hfirst
      cases hfirst
      refine ⟨d.health.isOff_disable, rfl, ?_⟩
      rw [← hjournal]
      rfl
  · exact ⟨_, finish_eq hooks d, rfl, rfl, rfl⟩

/-- An envelope with notices of both kinds, the unclean one first and deeper; the converter skips the
first text and panics on every other. -/
theorem notice_decides_nested :
    let s : Setting :=
      ⟨⟨"app-1"⟩, ⟨fun past _ => if past.isEmpty then .nothing else .panicked .other⟩, none,
        some fun _ _ => false⟩
    let c : Chunk := .batch
      [.text "early", .text "late", .batch [.empty, .batch [.shutdown false]], .shutdown true,
        .text "lost"]
    ∃ d', process s (some c) ⟨false, .ofDebounce 1000, .empty⟩ = (d', .flow .stop) ∧
      d'.health.IsOff ∧ d'.outlet.journal = [.unloaded ⟨"app-1"⟩, .closed] := by
  intro s c
  have hooks : s.HooksReturn := by
    rintro panics hpanics journal e
    cases hpanics
    rfl
  obtain ⟨hchunk, -⟩ := notice_decides hooks ⟨false, .ofDebounce 1000, .empty⟩
  obtain ⟨d', flow, hprocess, hstop, hnotice, -⟩ := hchunk c
  obtain ⟨hoff, -, hjournal⟩ := hnotice false rfl
  obtain rfl : flow = .stop := hstop.mpr rfl
  exact ⟨d', hprocess, hoff, hjournal⟩

end Delivery

end RemoteConsole
