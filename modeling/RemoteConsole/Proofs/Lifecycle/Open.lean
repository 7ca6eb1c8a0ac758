import RemoteConsole.Proofs.Lifecycle.Flight

/-!
# Open and closed lifecycles

* `Event.isEnd`: the event tells of the end of the stream.
* `Lifecycle.IsOpen`: nothing that others can see of a lifecycle tells of its end. Every call but
  the one that closes it keeps it so, whether the call breaks off or not.
* `Lifecycle.HasClosed reason`: the lifecycle shows that it is closed, and tells of no other reason;
  `IsOpen.close` says that it comes to this in one step.
* `Lifecycle.receive_end`: a failure never gives a shutdown as the reason to close.
-/

namespace RemoteConsole

/-- The event tells of the end of the stream. -/
def Event.isEnd : Event → Bool
  | .phaseChanged _ target => target = .closed
  | .retryScheduled _ _ _ => false
  | .healthChanged _ => false
  | .closed _ => true

namespace Lifecycle

/-- Nothing that others can see of the lifecycle tells of its end. -/
structure IsOpen (l : Lifecycle) : Prop where
  phase : l.phase ≠ .closed
  watched : l.watched.value ≠ .closed
  events : ∀ e ∈ l.events, e.isEnd = false

/-- The lifecycle shows that it is closed, for this reason. -/
structure HasClosed (reason : CloseReason) (l : Lifecycle) : Prop where
  phase : l.phase = .closed
  watched : l.watched.value = .closed
  kept : l.closeReason = some reason
  events : ∀ e ∈ l.events, ∀ r, e = .closed r → r = reason

variable {l : Lifecycle}

namespace IsOpen

theorem ofOptions (o : Options) : (ofOptions o).IsOpen := ⟨nofun, nofun, nofun⟩

theorem drained (h : l.IsOpen) : l.drained.IsOpen := ⟨h.phase, h.watched, nofun⟩

theorem emit (h : l.IsOpen) {e : Event} (he : e.isEnd = false) : (l.emit e).IsOpen := by
  refine ⟨h.phase, h.watched, fun e' he' => ?_⟩
  rcases List.mem_append.mp he' with he' | he'
  · exact h.events e' he'
  · rw [List.mem_singleton.mp he']
    exact he

theorem enter (h : l.IsOpen) {next : Phase} (hnext : next ≠ .closed) : (l.enter next).IsOpen := by
  unfold Lifecycle.enter
  split
  · exact h
  · have hmoved : ({ l with phase := next, watched := l.watched.send next } : Lifecycle).IsOpen :=
      ⟨hnext, hnext, h.events⟩
    exact hmoved.emit (decide_eq_false hnext)

theorem calm (h : l.IsOpen) (change : Health.Monitor → Health.Monitor) :
    (l.calm change).IsOpen := by
  have hcalmed : ({ l with health := change l.health } : Lifecycle).IsOpen :=
    ⟨h.phase, h.watched, h.events⟩
  unfold Lifecycle.calm
  dsimp only
  split
  · exact hcalmed.emit rfl
  · exact hcalmed

theorem markPending (h : l.IsOpen) (now : Nat) : (l.markPending now).IsOpen :=
  ⟨h.phase, h.watched, h.events⟩

theorem enterPolling (h : l.IsOpen) (now : Nat) : (l.enterPolling now).IsOpen := by
  have henter : (l.enter .polling).IsOpen := h.enter (by decide)
  unfold Lifecycle.enterPolling
  dsimp only
  split
  · exact henter.markPending now
  · exact henter

theorem start (h : l.IsOpen) (now : Nat) : (l.start now).1.IsOpen := by
  unfold Lifecycle.start
  split
  · exact h.enterPolling now
  · exact h

theorem receiveChunk (h : l.IsOpen) (chunk : Option Chunk) : (l.receiveChunk chunk).1.IsOpen := by
  have henter : (l.enter .delivering).IsOpen := h.enter (by decide)
  have hreset : ({ l.enter .delivering with
      backoff := (l.enter .delivering).backoff.reset, failures := 0 } : Lifecycle).IsOpen :=
    ⟨henter.phase, henter.watched, henter.events⟩
  have hcalm := hreset.calm .markHealthy
  exact ⟨hcalm.phase, hcalm.watched, hcalm.events⟩

theorem retry (h : l.IsOpen) (e : FetchError) (now : Nat) : (l.retry e now).1.IsOpen := by
  have hpending := h.markPending now
  unfold Lifecycle.retry
  dsimp only
  split
  · exact hpending
  · next delay backoff _ =>
    have hnext : ({ l.markPending now with backoff := backoff } : Lifecycle).IsOpen :=
      ⟨hpending.phase, hpending.watched, hpending.events⟩
    have htold :=
      hnext.emit (e := .retryScheduled delay (l.markPending now).backoff.step e.code) rfl
    exact htold.enterPolling now

theorem receiveError (h : l.IsOpen) (e : FetchError) (now : Nat) :
    (l.receiveError e now).1.IsOpen := by
  have henter : (l.enter .backoff).IsOpen := h.enter (by decide)
  have hfailed : l.failed.IsOpen := ⟨henter.phase, henter.watched, henter.events⟩
  unfold Lifecycle.receiveError
  dsimp only
  split
  · exact ⟨henter.phase, henter.watched, henter.events⟩
  · split
    · exact henter
    · split
      · exact ⟨hfailed.phase, hfailed.watched, hfailed.events⟩
      · exact hfailed.retry e now

theorem receive (h : l.IsOpen) (outcome : Outcome) (now : Nat) :
    (l.receive outcome now).1.IsOpen := by
  unfold Lifecycle.receive
  split
  · cases outcome with
    | ok chunk => exact h.receiveChunk chunk
    | error e => exact h.receiveError e now
  · exact h

theorem continued (h : l.IsOpen) (now : Nat) : (l.delivered .continue now).1.IsOpen := by
  by_cases hphase : l.phase = .delivering
  · rw [l.delivered_continue hphase]
    exact h.enterPolling now
  · have hi : (Input.delivered .continue now).isHeard l.phase = false := decide_eq_false hphase
    rw [l.delivered_refused hi]
    exact h

theorem requestClose (h : l.IsOpen) : l.requestClose.1.IsOpen := by
  rw [l.requestClose_eq h.phase]
  exact ⟨h.phase, h.watched, h.events⟩

theorem fireHealth (h : l.IsOpen) (now : Nat) : (l.fireHealth now).1.IsOpen := by
  have hfired : ({ l with health := (l.health.fire now).1 } : Lifecycle).IsOpen :=
    ⟨h.phase, h.watched, h.events⟩
  unfold Lifecycle.fireHealth
  dsimp only
  split
  · exact hfired.emit rfl
  · exact hfired

/-- An open lifecycle that closes shows it, and tells of the reason that it had. -/
theorem close (h : l.IsOpen) {reason : CloseReason} (hreason : l.closeReason = some reason) :
    l.close.1.HasClosed reason := by
  rw [l.close_eq h.phase, hreason]
  refine ⟨rfl, rfl, rfl, fun e he r hr => ?_⟩
  subst hr
  have hcalmed : .closed r ∉ l.calmed := by
    unfold calmed
    split <;> simp
  have hopen : .closed r ∉ l.events := fun hmem => by cases h.events _ hmem
  simpa [hcalmed, hopen] using he

end IsOpen

theorem HasClosed.drained {reason : CloseReason} (h : l.HasClosed reason) :
    l.drained.HasClosed reason :=
  ⟨h.phase, h.watched, h.kept, nofun⟩

/-- What became of a delivery never asks for another. -/
theorem Response.ne_deliver {l' : Lifecycle} {flow : Flow} {now : Nat} {output : Output}
    {chunk : Option Chunk} (hr : l.Response (.delivered flow now) l' output) :
    output ≠ .command (.deliver chunk) := by
  cases hr with
  | ignored =>
    rcases l.currentCommand_cases with ⟨reason, hc⟩ | hc <;> rw [hc] <;> exact nofun
  | continued | closed => exact nofun

/-! ## Reasons -/

theorem enter_closeReason (l : Lifecycle) (next : Phase) :
    (l.enter next).closeReason = l.closeReason := by
  unfold enter
  split <;> rfl

theorem retry_closeReason (l : Lifecycle) (e : FetchError) (now : Nat) :
    (l.retry e now).1.closeReason = l.closeReason := by
  unfold retry
  dsimp only
  split
  · rfl
  · exact enterPolling_closeReason _ now

/-- A failure gives itself as the reason to close, if it gives one. -/
theorem receiveError_closeReason (l : Lifecycle) (e : FetchError) (now : Nat) :
    (l.receiveError e now).1.closeReason = l.closeReason ∨
      (l.receiveError e now).1.closeReason = some (.sessionInvalid e) ∨
        (l.receiveError e now).1.closeReason = some (.retriesExhausted e) := by
  have henter := l.enter_closeReason .backoff
  unfold receiveError
  dsimp only
  split
  · exact .inr (.inl rfl)
  · split
    · exact .inl henter
    · split
      · exact .inr (.inr rfl)
      · exact .inl ((l.failed.retry_closeReason e now).trans henter)

/-- When the end is to be delivered after an outcome, no notice gave the reason. -/
theorem receive_end {l' : Lifecycle} {outcome : Outcome} {now : Nat} (hphase : l.phase = .polling)
    (hnone : l.closeReason = none) (h : l.receive outcome now = (l', .ok (.deliver none)))
    (clean : Bool) : l'.closeReason ≠ some (.shutdown clean) := by
  cases outcome with
  | ok chunk =>
    rw [l.receive_chunk chunk now hphase, l.receiveChunk_eq chunk hphase] at h
    cases h
    exact nofun
  | error e =>
    have hreason := l.receiveError_closeReason e now
    rw [← l.receive_error e now hphase, h, hnone] at hreason
    rcases hreason with hreason | hreason | hreason <;> rw [hreason] <;> exact nofun

end Lifecycle

end RemoteConsole
