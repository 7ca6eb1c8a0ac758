import RemoteConsole.Proofs.Lifecycle.Flight

/-!
# Closing on request

* `Lifecycle.closing_requested`: once a stream runs, asking it to close and handing on its end
  closes it, and closed it stays.
* `Lifecycle.delivered_stop_idle`: before the start the end of the stream is not heard.
* `Lifecycle.requestClose_closes`: in any state that calls lead to, the request does its work if
  and only if the stream was started.
-/

namespace RemoteConsole.Lifecycle

variable {l : Lifecycle}

/-- The phases in which the end of the stream is heard are those between the start and the end. -/
theorem running_of_ne (hidle : l.phase ≠ .idle) (h : l.phase ≠ .closed) :
    l.phase = .delivering ∨ l.phase = .backoff ∨ l.phase = .polling := by
  cases hp : l.phase with
  | idle => exact absurd hp hidle
  | polling => exact .inr (.inr rfl)
  | delivering => exact .inl rfl
  | backoff => exact .inr (.inl rfl)
  | closed => exact absurd hp h

/-- A stream that runs closes as it is asked to; a reason that was there before stays. -/
theorem closing_requested (hidle : l.phase ≠ .idle) (h : l.phase ≠ .closed) (now : Nat) :
    (l.requestClose.1.delivered .stop now).2 = .close (l.closeReason.getD .requested) ∧
      (l.requestClose.1.delivered .stop now).1.phase = .closed := by
  let asked : Lifecycle := { l with closeReason := some (l.closeReason.getD .requested) }
  have hstop : asked.delivered .stop now = asked.close :=
    asked.delivered_stop (running_of_ne (l := asked) hidle h)
  have hrequest : l.requestClose = (asked, .deliver none) := l.requestClose_eq h
  rw [hrequest, hstop, asked.close_eq h]
  exact ⟨rfl, rfl⟩

/-- Before the start the end of the stream changes nothing. -/
theorem delivered_stop_idle (h : l.phase = .idle) (now : Nat) :
    l.delivered .stop now = (l, .wait) := by
  rw [l.delivered_refused (by rw [h]; rfl), l.currentCommand_eq (by rw [h]; decide)]

/-- Wherever calls have led, a stream that is not closed answers a request to close with its end.
If it was started, handing on the end closes it with the reason it had, or else as requested, and
no call asks for a fetch any more. If it was not started, the end is not heard: the stream is as
before, and it can still be started. -/
theorem requestClose_closes (o : Options) (inputs : List Input) (now : Nat)
    (h : ((ofOptions o).after inputs).phase ≠ .closed) :
    let l := (ofOptions o).after inputs
    let asked := l.requestClose.1
    let told := asked.delivered .stop now
    l.requestClose.2 = .deliver none ∧
      (l.phase ≠ .idle →
        told.2 = .close (l.closeReason.getD .requested) ∧ told.1.phase = .closed ∧
          ∀ later, ∀ t ∈ told.1.turns later, t.fetches = false) ∧
      (l.phase = .idle →
        told = (asked, .wait) ∧ told.1.phase = .idle ∧
          ∀ later, (told.1.start later).2 = .fetch 0) := by
  intro l asked told
  have hrequest := l.requestClose_eq h
  refine ⟨congrArg (·.2) hrequest, fun hidle => ?_, fun hidle => ?_⟩
  · obtain ⟨hcommand, hclosed⟩ := closing_requested hidle h now
    exact ⟨hcommand, hclosed, turns_closed hclosed⟩
  · have hasked : asked.phase = .idle := by
      rw [show asked = _ from congrArg (·.1) hrequest]
      exact hidle
    have htold : told = (asked, .wait) := delivered_stop_idle hasked now
    rw [htold]
    exact ⟨rfl, hasked, fun later => congrArg (·.2) (asked.start_eq hasked)⟩

/-- A stream that waits for its first fetch, and one that was not started. -/
theorem requestClose_closes_brief :
    let started := (ofOptions .default).after [.start 0]
    (started.requestClose.1.delivered .stop 1).2 = .close .requested ∧
      ((ofOptions .default).requestClose.1.delivered .stop 1).1.phase = .idle :=
  ⟨((requestClose_closes .default [.start 0] 1 (by decide)).2.1 (by decide)).1,
    ((requestClose_closes .default [] 1 (by decide)).2.2 rfl).2.1⟩

/-- A stream that was not started survives its close: it still fetches. -/
theorem idle_outlives_close :
    let l := (ofOptions .default).after []
    let told := l.requestClose.1.delivered .stop 0
    l.phase ≠ .closed ∧ (∀ reason, told.2 ≠ .close reason) ∧ told.1.phase ≠ .closed ∧
      ∃ t ∈ told.1.turns [.start 0], t.fetches = true := by
  intro l told
  have htold : told = (l.requestClose.1, .wait) := delivered_stop_idle rfl 0
  rw [htold]
  exact ⟨by decide, fun reason => Command.noConfusion, by decide, _, List.mem_singleton_self _, rfl⟩

end RemoteConsole.Lifecycle
