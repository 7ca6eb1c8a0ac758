import RemoteConsole.Proofs.Backoff.Laws
import RemoteConsole.Proofs.Health.Laws
import RemoteConsole.Proofs.Lifecycle.Bearing

/-!
# Calls on a lifecycle

Nothing keeps the owner of a lifecycle from calling it out of turn: here are all calls, with any
arguments, in any order.

* `Input`, `Output`, `Lifecycle.respond`: a call, its answer, and the call made.
* `Lifecycle.after`, `Lifecycle.turns`: the state after calls, and the record of all of them.
* `Lifecycle.Response`: all that a call can come to, one case for each way in which it ends
  (`response`). Whatever holds of every run of calls is shown by cases on it.
-/

namespace RemoteConsole

/-- A call on a lifecycle. -/
inductive Input where
  | start (now : Nat)
  | receive (outcome : Outcome) (now : Nat)
  | delivered (flow : Flow) (now : Nat)
  | requestClose
  | awaitHealth (now limit : Nat)
deriving Repr

/-- What a call answers: a command, whether the health signal became true, or nothing since it
broke off. -/
inductive Output where
  | command (c : Command)
  | waited (raised : Bool)
  | broken (fault : Fault)
deriving Repr

/-- The call does something in a phase. -/
def Input.isHeard (p : Phase) : Input → Bool
  | .start _ => p = .idle
  | .receive _ _ => p = .polling
  | .delivered .continue _ => p = .delivering
  | .delivered .stop _ => p = .delivering ∨ p = .backoff ∨ p = .polling
  | .requestClose => p ≠ .closed
  | .awaitHealth _ _ => true

/-- A call that was made: what it found, what it answered, and what it left. -/
structure Turn where
  before : Lifecycle
  input : Input
  output : Output
  after : Lifecycle
deriving Repr

namespace Lifecycle

variable (l : Lifecycle)

/-- Makes a call. -/
def respond : Input → Lifecycle × Output
  | .start now => (l.start now).map id .command
  | .receive outcome now =>
    match l.receive outcome now with
    | (l', .ok c) => (l', .command c)
    | (l', .error fault) => (l', .broken fault)
  | .delivered flow now => (l.delivered flow now).map id .command
  | .requestClose => l.requestClose.map id .command
  | .awaitHealth now limit =>
    ((l.awaitHealth now limit).state, .waited (l.awaitHealth now limit).raised)

/-- The state after calls. -/
def after : Lifecycle → List Input → Lifecycle
  | l, [] => l
  | l, i :: rest => (l.respond i).1.after rest

/-- The record of calls. -/
def turns : Lifecycle → List Input → List Turn
  | _, [] => []
  | l, i :: rest => ⟨l, i, (l.respond i).2, (l.respond i).1⟩ :: (l.respond i).1.turns rest

theorem after_append (xs ys : List Input) : l.after (xs ++ ys) = (l.after xs).after ys := by
  induction xs generalizing l with
  | nil => rfl
  | cons i xs ih => exact ih _

/-- A record that is cut is the record of the calls before the cut, and of those after it. -/
theorem turns_cut {inputs : List Input} {xs ys : List Turn} (h : l.turns inputs = xs ++ ys) :
    ∃ earlier later, inputs = earlier ++ later ∧ l.turns earlier = xs ∧
      (l.after earlier).turns later = ys := by
  induction xs generalizing l inputs with
  | nil => exact ⟨[], inputs, rfl, rfl, h⟩
  | cons t xs ih =>
    cases inputs with
    | nil => cases h
    | cons i inputs =>
      obtain ⟨rfl, htail⟩ := List.cons.inj h
      obtain ⟨earlier, later, rfl, hxs, hys⟩ := ih _ htail
      exact ⟨i :: earlier, later, rfl, congrArg (_ :: ·) hxs, hys⟩

/-- A call in a record was made in a state that calls led to. -/
theorem mem_turns {inputs : List Input} {t : Turn} (h : t ∈ l.turns inputs) :
    ∃ earlier, t.before = l.after earlier ∧ t.before.respond t.input = (t.after, t.output) := by
  obtain ⟨xs, ys, hcut⟩ := List.append_of_mem h
  obtain ⟨earlier, later, -, -, hturns⟩ := l.turns_cut hcut
  cases later with
  | nil => cases hturns
  | cons i later =>
    obtain ⟨rfl, -⟩ := List.cons.inj hturns
    exact ⟨earlier, rfl, rfl⟩

/-- What every call preserves holds after all calls. -/
theorem after_induction {P : Lifecycle → Prop} (hstep : ∀ l i, P l → P (l.respond i).1)
    (h : P l) (inputs : List Input) : P (l.after inputs) := by
  induction inputs generalizing l with
  | nil => exact h
  | cons i inputs ih => exact ih _ (hstep l i h)

/-! ## What a call does to the whole state -/

/-- Before its end a stream that is called out of turn is asked to close. -/
theorem currentCommand_eq (h : l.phase ≠ .closed) : l.currentCommand = .wait := by
  unfold currentCommand
  split
  · exact if_neg h
  · rfl

/-- The events of the signal going down. -/
def calmed : List Event := if l.health.isUnhealthy then [.healthChanged false] else []

/-- The health monitor after a fetch has begun. -/
def armed (now : Nat) : Health.Monitor :=
  if l.arming = .onEveryPoll then l.health.markPending now else l.health

theorem enter_eq {next : Phase} (h : l.phase ≠ next) :
    l.enter next =
      { l with
        phase := next
        watched := l.watched.send next
        events := l.events ++ [.phaseChanged l.phase next] } :=
  if_neg h

theorem calm_eq (change : Health.Monitor → Health.Monitor) :
    l.calm change = { l with health := change l.health, events := l.events ++ l.calmed } := by
  unfold calm calmed
  split
  · rfl
  · rw [List.append_nil]

theorem enterPolling_eq {now : Nat} (h : l.phase ≠ .polling) :
    l.enterPolling now =
      { l with
        phase := .polling
        watched := l.watched.send .polling
        health := l.armed now
        events := l.events ++ [.phaseChanged l.phase .polling] } := by
  unfold enterPolling armed
  rw [enter_eq l h]
  dsimp only
  split <;> rfl

theorem receiveChunk_eq (chunk : Option Chunk) (h : l.phase = .polling) :
    l.receiveChunk chunk =
      ({ l with
          phase := .delivering
          watched := l.watched.send .delivering
          backoff := l.backoff.reset
          failures := 0
          health := l.health.markHealthy
          closeReason := (reasonOf chunk).or l.closeReason
          events := l.events ++ [.phaseChanged .polling .delivering] ++ l.calmed },
        .deliver chunk) := by
  unfold receiveChunk
  dsimp only
  rw [enter_eq l (by rw [h]; decide), calm_eq, h]
  rfl

theorem failed_eq (h : l.phase = .polling) :
    l.failed =
      { l with
        phase := .backoff
        watched := l.watched.send .backoff
        failures := l.failures + 1
        events := l.events ++ [.phaseChanged .polling .backoff] } := by
  unfold failed
  rw [enter_eq l (by rw [h]; decide), h]

theorem retry_eq {e : FetchError} {now delay : Nat} {backoff : Backoff.Controller}
    (h : l.phase = .backoff) (hnext : l.backoff.nextDelay = .ok (delay, backoff)) :
    l.retry e now =
      ({ l with
          phase := .polling
          watched := l.watched.send .polling
          backoff := backoff
          health := l.health.markPending now
          events := l.events ++
            [.retryScheduled delay l.backoff.step e.code, .phaseChanged .backoff .polling] },
        .ok (.fetch delay)) := by
  have hnext' : (l.markPending now).backoff.nextDelay = .ok (delay, backoff) := hnext
  unfold retry
  simp only [hnext']
  rw [enterPolling_eq]
  · -- with either arming the attempt is pending already when the fetch begins
    unfold armed
    simp only [emit, markPending, Health.Monitor.markPending_markPending, ite_self, h,
      List.append_assoc, List.cons_append, List.nil_append]
  · show l.phase ≠ .polling
    rw [h]; decide

theorem close_eq (h : l.phase ≠ .closed) :
    l.close =
      ({ l with
          phase := .closed
          watched := l.watched.send .closed
          health := l.health.disable
          closeReason := some (l.closeReason.getD .serverClosed)
          events := l.events ++ l.calmed ++
            [.phaseChanged l.phase .closed, .closed (l.closeReason.getD .serverClosed)] },
        .close (l.closeReason.getD .serverClosed)) := by
  unfold close
  dsimp only
  rw [calm_eq, enter_eq]
  · simp only [emit, List.append_assoc]
    rfl
  · exact h

theorem awaitHealth_eq (now limit : Nat) :
    (l.awaitHealth now limit).state =
      { l with
        health := (l.health.await now limit).state
        events := l.events ++
          if (l.health.await now limit).raised then [.healthChanged true] else [] } := by
  unfold awaitHealth
  cases hraised : (l.health.await now limit).raised with
  | true => simp only [hraised, ↓reduceIte, emit]
  | false => simp [hraised]

/-! ## What a call comes to -/

/-- All that a call can come to. -/
inductive Response (l : Lifecycle) : Input → Lifecycle → Output → Prop
  | ignored {i : Input} (h : i.isHeard l.phase = false) :
      Response l i l (.command l.currentCommand)
  | started {now : Nat} (h : l.phase = .idle) :
      Response l (.start now)
        { l with
          phase := .polling
          watched := l.watched.send .polling
          health := l.armed now
          events := l.events ++ [.phaseChanged .idle .polling] }
        (.command (.fetch 0))
  | brought {chunk : Option Chunk} {now : Nat} (h : l.phase = .polling) :
      Response l (.receive (.ok chunk) now)
        { l with
          phase := .delivering
          watched := l.watched.send .delivering
          backoff := l.backoff.reset
          failures := 0
          health := l.health.markHealthy
          closeReason := (reasonOf chunk).or l.closeReason
          events := l.events ++ [.phaseChanged .polling .delivering] ++ l.calmed }
        (.command (.deliver chunk))
  | failedLast {e : FetchError} {now : Nat} {failures : UInt32} {reason : CloseReason}
      (h : l.phase = .polling) :
      Response l (.receive (.error e) now)
        { l with
          phase := .backoff
          watched := l.watched.send .backoff
          failures := failures
          closeReason := some reason
          events := l.events ++ [.phaseChanged .polling .backoff] }
        (.command (.deliver none))
  | retried {e : FetchError} {now delay : Nat} {backoff : Backoff.Controller}
      (h : l.phase = .polling) (hcount : l.failures ≠ lastFailure)
      (hmore : l.backoff.policy.exhausted (l.failures + 1) = false)
      (hnext : l.backoff.nextDelay = .ok (delay, backoff)) :
      Response l (.receive (.error e) now)
        { l with
          phase := .polling
          watched := (l.watched.send .backoff).send .polling
          backoff := backoff
          failures := l.failures + 1
          health := l.health.markPending now
          events := l.events ++
            [.phaseChanged .polling .backoff, .retryScheduled delay l.backoff.step e.code,
              .phaseChanged .backoff .polling] }
        (.command (.fetch delay))
  | broken {e : FetchError} {now : Nat} {l' : Lifecycle} {fault : Fault} (h : l.phase = .polling)
      (hphase : l'.phase = .backoff)
      (hcause : l.failures = lastFailure ∨ l.backoff.nextDelay = .error fault) :
      Response l (.receive (.error e) now) l' (.broken fault)
  | continued {now : Nat} (h : l.phase = .delivering) :
      Response l (.delivered .continue now)
        { l with
          phase := .polling
          watched := l.watched.send .polling
          health := l.armed now
          events := l.events ++ [.phaseChanged .delivering .polling] }
        (.command (.fetch 0))
  | closed {now : Nat} (h : l.phase = .delivering ∨ l.phase = .backoff ∨ l.phase = .polling) :
      Response l (.delivered .stop now)
        { l with
          phase := .closed
          watched := l.watched.send .closed
          health := l.health.disable
          closeReason := some (l.closeReason.getD .serverClosed)
          events := l.events ++ l.calmed ++
            [.phaseChanged l.phase .closed, .closed (l.closeReason.getD .serverClosed)] }
        (.command (.close (l.closeReason.getD .serverClosed)))
  | asked (h : l.phase ≠ .closed) :
      Response l .requestClose { l with closeReason := some (l.closeReason.getD .requested) }
        (.command (.deliver none))
  | awaited {now limit : Nat} :
      Response l (.awaitHealth now limit)
        { l with
          health := (l.health.await now limit).state
          events := l.events ++
            if (l.health.await now limit).raised then [.healthChanged true] else [] }
        (.waited (l.health.await now limit).raised)

theorem response_start (now : Nat) :
    l.Response (.start now) (l.respond (.start now)).1 (l.respond (.start now)).2 := by
  by_cases h : l.phase = .idle
  · have hstart : l.start now = (l.enterPolling now, .fetch 0) := l.start_eq h
    rw [enterPolling_eq l (by rw [h]; decide), h] at hstart
    simp only [respond, hstart]
    exact .started h
  · simp only [respond, start, if_neg h]
    exact .ignored (decide_eq_false h)

theorem response_error (e : FetchError) (now : Nat) (h : l.phase = .polling) :
    l.Response (.receive (.error e) now) (l.respond (.receive (.error e) now)).1
      (l.respond (.receive (.error e) now)).2 := by
  have hleave : l.phase ≠ .backoff := by rw [h]; decide
  have henter := l.enter_eq hleave
  have hfailed := l.failed_eq h
  simp only [respond, l.receive_error e now h]
  rw [h] at henter
  cases ht : e.isTerminal with
  | true =>
    rw [l.receiveError_terminal ht, henter]
    exact .failedLast h
  | false =>
    by_cases hcount : l.failures = lastFailure
    · rw [l.receiveError_overflowed ht (by rw [henter]; exact hcount), henter]
      exact .broken h rfl (.inl hcount)
    · have hlast : (l.enter .backoff).failures ≠ lastFailure := by rw [henter]; exact hcount
      cases hmore : l.failed.backoff.policy.exhausted l.failed.failures with
      | true =>
        rw [l.receiveError_exhausted ht hlast hmore, hfailed]
        exact .failedLast h
      | false =>
        rw [l.receiveError_retry ht hlast hmore]
        rw [hfailed] at hmore ⊢
        cases hnext : l.backoff.nextDelay with
        | error fault =>
          rw [retry_fault _ (by exact hnext)]
          exact .broken h rfl (.inr hnext)
        | ok next =>
          rw [retry_eq _ (by rfl) (by exact hnext)]
          simpa using Response.retried h hcount hmore hnext

theorem response_receive (outcome : Outcome) (now : Nat) :
    l.Response (.receive outcome now) (l.respond (.receive outcome now)).1
      (l.respond (.receive outcome now)).2 := by
  by_cases h : l.phase = .polling
  · cases outcome with
    | ok chunk =>
      simp only [respond, l.receive_chunk chunk now h, l.receiveChunk_eq chunk h]
      exact .brought h
    | error e => exact l.response_error e now h
  · simp only [respond, receive, if_neg h]
    exact .ignored (decide_eq_false h)

/-- What became of a delivery that was not made is not heard. -/
theorem delivered_refused {flow : Flow} {now : Nat}
    (h : (Input.delivered flow now).isHeard l.phase = false) :
    l.delivered flow now = (l, l.currentCommand) := by
  unfold delivered
  cases flow <;> cases hp : l.phase <;> simp_all [Input.isHeard]

theorem response_delivered (flow : Flow) (now : Nat) :
    l.Response (.delivered flow now) (l.respond (.delivered flow now)).1
      (l.respond (.delivered flow now)).2 := by
  cases flow with
  | «continue» =>
    by_cases h : l.phase = .delivering
    · have hgo : l.delivered .continue now = (l.enterPolling now, .fetch 0) :=
        l.delivered_continue h
      rw [enterPolling_eq l (by rw [h]; decide), h] at hgo
      simp only [respond, hgo]
      exact .continued h
    · have hi : (Input.delivered .continue now).isHeard l.phase = false := decide_eq_false h
      simp only [respond, l.delivered_refused hi]
      exact .ignored hi
  | stop =>
    by_cases h : l.phase = .delivering ∨ l.phase = .backoff ∨ l.phase = .polling
    · have hstop : l.delivered .stop now = l.close := l.delivered_stop h
      rw [close_eq l (by rcases h with h | h | h <;> rw [h] <;> decide)] at hstop
      simp only [respond, hstop]
      exact .closed h
    · have hi : (Input.delivered .stop now).isHeard l.phase = false := decide_eq_false h
      simp only [respond, l.delivered_refused hi]
      exact .ignored hi

/-- What a call comes to is one of the cases. -/
theorem response (i : Input) : l.Response i (l.respond i).1 (l.respond i).2 := by
  cases i with
  | start now => exact l.response_start now
  | receive outcome now => exact l.response_receive outcome now
  | delivered flow now => exact l.response_delivered flow now
  | requestClose =>
    by_cases h : l.phase = .closed
    · simp only [respond, requestClose, if_pos h]
      exact .ignored (by simp [Input.isHeard, h])
    · simp only [respond, l.requestClose_eq h]
      exact .asked h
  | awaitHealth now limit =>
    simp only [respond, awaitHealth_eq]
    exact .awaited

variable {l} {l' : Lifecycle} {i : Input} {output : Output}

/-- Under an ordered policy a call breaks off only when no more failures can be counted. -/
theorem Response.ne_broken (hr : l.Response i l' output) (hp : l.backoff.policy.IsOrdered)
    (hcount : l.phase = .polling → l.failures ≠ lastFailure) (fault : Fault) :
    output ≠ .broken fault := by
  cases hr with
  | broken hphase _ hcause =>
    obtain ⟨delay, next, hnext⟩ := Backoff.Controller.nextDelay_ok hp
    rcases hcause with hlast | hnone
    · exact absurd hlast (hcount hphase)
    · cases hnext.symm.trans hnone
  | ignored | started | brought | failedLast | retried | continued | closed | asked | awaited =>
    nofun

end Lifecycle

end RemoteConsole
