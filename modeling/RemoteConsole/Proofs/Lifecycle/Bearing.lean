import RemoteConsole.Lifecycle

/-!
# The bearing of a lifecycle

* `Lifecycle.bearing`: all of a lifecycle but the health signal: where it is, how far its backoff
  has come, why it closes, and the events that tell of this.
* `bearing_enter`, `bearing_calm`, `bearing_markPending`: what the single operations do to it. The
  health signal changes nothing of it, so neither the debounce nor the arming can be told from it.
* `start_eq`, `bearing_receiveChunk`, `receiveError_cases`, `bearing_close`, ...: the same for the
  calls that move a stream on.
-/

namespace RemoteConsole

/-- The event tells of the health signal. -/
def Event.isHealth : Event → Bool
  | .healthChanged _ => true
  | .phaseChanged _ _ => false
  | .retryScheduled _ _ _ => false
  | .closed _ => false

/-- The events that do not tell of the health signal. -/
def Event.milestones (es : List Event) : List Event := es.filter fun e => !e.isHealth

/-- All of a lifecycle but its health signal. -/
structure Bearing where
  phase : Phase
  backoff : Backoff.Controller
  failures : UInt32
  closeReason : Option CloseReason
  milestones : List Event

namespace Bearing

variable (b : Bearing)

/-- The bearing after one more event. -/
def emit (e : Event) : Bearing := { b with milestones := b.milestones ++ [e] }

/-- The bearing after a change to another phase. -/
def enter (next : Phase) : Bearing :=
  { b with phase := next, milestones := b.milestones ++ [.phaseChanged b.phase next] }

/-- The bearing whose milestones were handed out. -/
def drained : Bearing := { b with milestones := [] }

end Bearing

namespace Lifecycle

variable (l : Lifecycle)

/-- The lifecycle without its health signal. -/
def bearing : Bearing :=
  ⟨l.phase, l.backoff, l.failures, l.closeReason, Event.milestones l.events⟩

/-! ## Single operations -/

@[simp] theorem bearing_drained : l.drained.bearing = l.bearing.drained := rfl

theorem bearing_emit {e : Event} (h : e.isHealth = false) :
    (l.emit e).bearing = l.bearing.emit e := by
  unfold bearing emit Bearing.emit Event.milestones
  simp only [List.filter_append, List.filter_cons, h, Bool.not_false, ↓reduceIte, List.filter_nil]

theorem bearing_emit_health (u : Bool) : (l.emit (.healthChanged u)).bearing = l.bearing := by
  unfold bearing emit Event.milestones
  simp only [List.filter_append, List.filter_cons, Event.isHealth, Bool.not_true,
    Bool.false_eq_true, ↓reduceIte, List.filter_nil, List.append_nil]

theorem bearing_enter {next : Phase} (h : l.phase ≠ next) :
    (l.enter next).bearing = l.bearing.enter next := by
  unfold enter
  rw [if_neg h, bearing_emit _ rfl]
  rfl

@[simp] theorem bearing_calm (change : Health.Monitor → Health.Monitor) :
    (l.calm change).bearing = l.bearing := by
  unfold calm
  dsimp only
  split
  · exact bearing_emit_health _ _
  · rfl

@[simp] theorem bearing_markPending (now : Nat) : (l.markPending now).bearing = l.bearing := rfl

theorem bearing_enterPolling (now : Nat) :
    (l.enterPolling now).bearing = (l.enter .polling).bearing := by
  unfold enterPolling
  dsimp only
  split
  · rfl
  · rfl

theorem enterPolling_phase (now : Nat) : (l.enterPolling now).phase = .polling := by
  rw [show (l.enterPolling now).phase = (l.enter .polling).phase from
    congrArg (·.phase) (l.bearing_enterPolling now)]
  unfold enter
  split
  · next h => exact h
  · rfl

theorem enterPolling_closeReason (now : Nat) :
    (l.enterPolling now).closeReason = l.closeReason := by
  rw [show (l.enterPolling now).closeReason = (l.enter .polling).closeReason from
    congrArg (·.closeReason) (l.bearing_enterPolling now)]
  unfold enter
  split <;> rfl

theorem bearing_fireHealth (now : Nat) : (l.fireHealth now).1.bearing = l.bearing := by
  unfold fireHealth
  dsimp only
  split
  · exact bearing_emit_health _ _
  · rfl

/-- A fired deadline is gone. -/
theorem fireHealth_deadline {now : Nat} (h : l.health.isDue now = true) :
    (l.fireHealth now).1.health.deadline = none := by
  unfold fireHealth Health.Monitor.fire
  rw [if_pos h]
  dsimp only
  split <;> split <;> rfl

/-! ## The calls that move a stream on -/

theorem start_eq {now : Nat} (h : l.phase = .idle) : l.start now = (l.enterPolling now, .fetch 0) :=
  if_pos h

theorem receive_chunk (chunk : Option Chunk) (now : Nat) (h : l.phase = .polling) :
    l.receive (.ok chunk) now = ((l.receiveChunk chunk).1, .ok (.deliver chunk)) :=
  if_pos h

theorem receive_error (e : FetchError) (now : Nat) (h : l.phase = .polling) :
    l.receive (.error e) now = l.receiveError e now :=
  if_pos h

theorem bearing_receiveChunk (chunk : Option Chunk) (h : l.phase = .polling) :
    (l.receiveChunk chunk).1.bearing =
      { l.bearing.enter .delivering with
        backoff := l.backoff.reset
        failures := 0
        closeReason := (reasonOf chunk).or l.closeReason } := by
  have henter : (l.enter .delivering).bearing = l.bearing.enter .delivering :=
    l.bearing_enter (by rw [h]; decide)
  have hreason : (l.enter .delivering).closeReason = l.closeReason :=
    congrArg (·.closeReason) henter
  have hbackoff : (l.enter .delivering).backoff = l.backoff := congrArg (·.backoff) henter
  have hcalm := bearing_calm
    { l.enter .delivering with backoff := (l.enter .delivering).backoff.reset, failures := 0 }
    .markHealthy
  unfold receiveChunk
  rw [← hreason, ← hbackoff, ← henter]
  simp only [bearing, Bearing.mk.injEq] at hcalm ⊢
  exact ⟨hcalm.1, hcalm.2.1, hcalm.2.2.1, by rw [hcalm.2.2.2.1], hcalm.2.2.2.2⟩

theorem receiveError_terminal {e : FetchError} {now : Nat} (he : e.isTerminal = true) :
    l.receiveError e now =
      ({ l.enter .backoff with closeReason := some (.sessionInvalid e) }, .ok (.deliver none)) := by
  unfold receiveError
  dsimp only
  rw [if_pos he]
  rfl

/-- As many failures were counted as there are numbers for. -/
theorem receiveError_overflowed {e : FetchError} {now : Nat} (he : e.isTerminal = false)
    (hlast : (l.enter .backoff).failures = lastFailure) :
    l.receiveError e now = (l.enter .backoff, .error .counterOverflow) := by
  unfold receiveError
  dsimp only
  rw [if_neg (by rw [he]; decide)]
  exact if_pos hlast

/-- The lifecycle that has counted one more failure. -/
def failed : Lifecycle := { l.enter .backoff with failures := (l.enter .backoff).failures + 1 }

theorem bearing_failed (h : l.phase = .polling) :
    l.failed.bearing = { l.bearing.enter .backoff with failures := l.failures + 1 } := by
  have henter : (l.enter .backoff).bearing = l.bearing.enter .backoff :=
    l.bearing_enter (by rw [h]; decide)
  have hfailures : (l.enter .backoff).failures = l.failures := congrArg (·.failures) henter
  rw [← henter, ← hfailures]
  rfl

theorem failed_policy (h : l.phase = .polling) : l.failed.backoff = l.backoff :=
  congrArg (·.backoff) (l.bearing_failed h)

theorem receiveError_exhausted {e : FetchError} {now : Nat} (he : e.isTerminal = false)
    (hlast : (l.enter .backoff).failures ≠ lastFailure)
    (hexhausted : l.failed.backoff.policy.exhausted l.failed.failures = true) :
    l.receiveError e now =
      ({ l.failed with closeReason := some (.retriesExhausted e) }, .ok (.deliver none)) := by
  unfold receiveError
  dsimp only
  rw [if_neg (by rw [he]; decide), if_neg hlast]
  exact if_pos hexhausted

theorem receiveError_retry {e : FetchError} {now : Nat} (he : e.isTerminal = false)
    (hlast : (l.enter .backoff).failures ≠ lastFailure)
    (hexhausted : l.failed.backoff.policy.exhausted l.failed.failures = false) :
    l.receiveError e now = l.failed.retry e now := by
  unfold receiveError
  dsimp only
  rw [if_neg (by rw [he]; decide), if_neg hlast]
  exact if_neg fun htrue => Bool.false_ne_true (hexhausted.symm.trans htrue)

theorem retry_command {e : FetchError} {now delay : Nat} {backoff : Backoff.Controller}
    (h : l.backoff.nextDelay = .ok (delay, backoff)) :
    (l.retry e now).2 = .ok (.fetch delay) := by
  have : (l.markPending now).backoff.nextDelay = .ok (delay, backoff) := h
  unfold retry
  simp only [this]

theorem bearing_retry (e : FetchError) (now : Nat) {delay : Nat} {backoff : Backoff.Controller}
    (hp : l.phase ≠ .polling) (h : l.backoff.nextDelay = .ok (delay, backoff)) :
    (l.retry e now).1.bearing =
      { (l.bearing.emit (.retryScheduled delay l.backoff.step e.code)).enter .polling with
        backoff := backoff } := by
  have : (l.markPending now).backoff.nextDelay = .ok (delay, backoff) := h
  unfold retry
  simp only [this]
  rw [bearing_enterPolling, bearing_enter, bearing_emit _ rfl]
  · rfl
  · exact hp

theorem retry_fault {e : FetchError} {now : Nat} {fault : Fault}
    (h : l.backoff.nextDelay = .error fault) :
    l.retry e now = (l.markPending now, .error fault) := by
  have : (l.markPending now).backoff.nextDelay = .error fault := h
  unfold retry
  simp only [this]

/-- A failure ends the stream, has it fetch again, or breaks off. Only a failure that is not
terminal does not end it. -/
theorem receiveError_cases (h : l.phase = .polling) (e : FetchError) (now : Nat) :
    (∃ l' reason, l.receiveError e now = (l', .ok (.deliver none)) ∧
      l'.phase = .backoff ∧ l'.closeReason = some reason) ∨
    e.isTerminal = false ∧
      ((∃ l' delay, l.receiveError e now = (l', .ok (.fetch delay)) ∧
          l'.phase = .polling ∧ l'.closeReason = l.closeReason) ∨
        ∃ l' fault, l.receiveError e now = (l', .error fault)) := by
  have henter : (l.enter .backoff).bearing = l.bearing.enter .backoff :=
    l.bearing_enter (by rw [h]; decide)
  have hfailed := l.bearing_failed h
  cases ht : e.isTerminal with
  | true =>
    exact .inl ⟨_, _, l.receiveError_terminal ht, congrArg (·.phase) henter, rfl⟩
  | false =>
    by_cases hlast : (l.enter .backoff).failures = lastFailure
    · exact .inr ⟨rfl, .inr ⟨_, _, l.receiveError_overflowed ht hlast⟩⟩
    · cases hx : l.failed.backoff.policy.exhausted l.failed.failures with
      | true =>
        refine .inl ⟨_, _, l.receiveError_exhausted ht hlast hx, ?_, rfl⟩
        exact congrArg (·.phase) hfailed
      | false =>
        rw [l.receiveError_retry ht hlast hx]
        refine .inr ⟨rfl, ?_⟩
        cases hnext : l.failed.backoff.nextDelay with
        | error fault => exact .inr ⟨_, fault, l.failed.retry_fault hnext⟩
        | ok next =>
          have hphase : l.failed.phase ≠ .polling := by
            rw [show l.failed.phase = .backoff from congrArg (·.phase) hfailed]; decide
          have hretry := l.failed.bearing_retry e now hphase hnext
          refine .inl ⟨_, next.1, Prod.ext rfl (l.failed.retry_command hnext), ?_, ?_⟩
          · exact congrArg (·.phase) hretry
          · exact (congrArg (·.closeReason) hretry).trans (congrArg (·.closeReason) hfailed)

theorem delivered_continue {now : Nat} (h : l.phase = .delivering) :
    l.delivered .continue now = (l.enterPolling now, .fetch 0) := by
  unfold delivered; rw [h]

theorem delivered_stop {now : Nat}
    (h : l.phase = .delivering ∨ l.phase = .backoff ∨ l.phase = .polling) :
    l.delivered .stop now = l.close := by
  unfold delivered
  rcases h with h | h | h <;> rw [h]

theorem close_command {reason : CloseReason} (h : l.closeReason = some reason) :
    l.close.2 = .close reason := by
  have hcalm : (l.calm .disable).closeReason = l.closeReason :=
    congrArg (·.closeReason) (l.bearing_calm .disable)
  unfold close
  simp only [hcalm, h]
  rfl

theorem bearing_close {reason : CloseReason} (hp : l.phase ≠ .closed)
    (h : l.closeReason = some reason) :
    l.close.1.bearing = (l.bearing.enter .closed).emit (.closed reason) := by
  have hcalm := l.bearing_calm .disable
  have hreason : (l.calm .disable).closeReason = some reason :=
    (congrArg (·.closeReason) hcalm).trans h
  have hphase : (l.calm .disable).phase ≠ .closed := by
    rw [show (l.calm .disable).phase = l.phase from congrArg (·.phase) hcalm]; exact hp
  have hsame : { l.calm .disable with closeReason := some reason } = l.calm .disable := by
    rw [← hreason]
  unfold close
  simp only [hreason, Option.getD_some]
  rw [bearing_emit _ rfl, hsame, bearing_enter _ hphase, hcalm]

theorem requestClose_eq (h : l.phase ≠ .closed) :
    l.requestClose =
      ({ l with closeReason := some (l.closeReason.getD .requested) }, .deliver none) :=
  if_neg h

end Lifecycle

end RemoteConsole
