import RemoteConsole.Proofs.Lifecycle.Calls

/-!
# What an outcome leaves

The whole state of a lifecycle that waits for an outcome, after each kind of outcome.

* `Lifecycle.receive_terminal`, `receive_overflowed`, `receive_exhausted`, `receive_retried`: after
  an error that says that the session is gone, one that cannot be counted, one that is past the
  retries of the policy, and any other.
* `Lifecycle.receive_policy`, `after_policy`: no call changes the policy, also when it breaks off.
* `Bearing.Within p`: no more failures were counted than the policy retries. `Within.respond`: every
  call keeps it.
-/

namespace RemoteConsole

namespace Lifecycle

variable {l : Lifecycle} {e : FetchError}

/-- The session is gone: the error is the reason to close, and it is not counted. -/
theorem receive_terminal (h : l.phase = .polling) (he : e.isTerminal = true) (now : Nat) :
    l.receive (.error e) now =
      ({ l with
          phase := .backoff
          watched := l.watched.send .backoff
          closeReason := some (.sessionInvalid e)
          events := l.events ++ [.phaseChanged .polling .backoff] },
        .ok (.deliver none)) := by
  have hleave : l.phase ≠ .backoff := by rw [h]; decide
  rw [l.receive_error e now h, l.receiveError_terminal he, l.enter_eq hleave, h]

/-- The error is one more than can be counted. -/
theorem receive_overflowed (h : l.phase = .polling) (he : e.isTerminal = false)
    (hlast : l.failures = lastFailure) (now : Nat) :
    l.receive (.error e) now = (l.enter .backoff, .error .counterOverflow) := by
  have hleave : l.phase ≠ .backoff := by rw [h]; decide
  rw [l.receive_error e now h, l.receiveError_overflowed he]
  rw [l.enter_eq hleave]
  exact hlast

/-- The error is one more than the policy retries: it is counted, and is the reason to close. -/
theorem receive_exhausted (h : l.phase = .polling) (he : e.isTerminal = false)
    (hcount : l.failures ≠ lastFailure)
    (hmore : l.backoff.policy.exhausted (l.failures + 1) = true) (now : Nat) :
    l.receive (.error e) now =
      ({ l with
          phase := .backoff
          watched := l.watched.send .backoff
          failures := l.failures + 1
          closeReason := some (.retriesExhausted e)
          events := l.events ++ [.phaseChanged .polling .backoff] },
        .ok (.deliver none)) := by
  have hleave : l.phase ≠ .backoff := by rw [h]; decide
  have hlast : (l.enter .backoff).failures ≠ lastFailure := by rw [l.enter_eq hleave]; exact hcount
  have hfailed := l.failed_eq h
  rw [l.receive_error e now h,
    l.receiveError_exhausted he hlast (by rw [hfailed]; exact hmore), hfailed]

/-- The error is counted, and the next fetch begins after the delay of the backoff. -/
theorem receive_retried (h : l.phase = .polling) (he : e.isTerminal = false)
    (hcount : l.failures ≠ lastFailure)
    (hmore : l.backoff.policy.exhausted (l.failures + 1) = false) {delay : Nat}
    {backoff : Backoff.Controller} (hnext : l.backoff.nextDelay = .ok (delay, backoff))
    (now : Nat) :
    l.receive (.error e) now =
      ({ l with
          phase := .polling
          watched := (l.watched.send .backoff).send .polling
          backoff := backoff
          failures := l.failures + 1
          health := l.health.markPending now
          events := l.events ++
            [.phaseChanged .polling .backoff, .retryScheduled delay l.backoff.step e.code,
              .phaseChanged .backoff .polling] },
        .ok (.fetch delay)) := by
  have hleave : l.phase ≠ .backoff := by rw [h]; decide
  have hlast : (l.enter .backoff).failures ≠ lastFailure := by rw [l.enter_eq hleave]; exact hcount
  have hfailed := l.failed_eq h
  rw [l.receive_error e now h, l.receiveError_retry he hlast (by rw [hfailed]; exact hmore),
    hfailed, retry_eq _ (by rfl) (by exact hnext)]
  simp only [List.append_assoc, List.cons_append, List.nil_append]

/-- The count of one more failure. -/
theorem toNat_succ {n : UInt32} (h : n ≠ lastFailure) : (n + 1).toNat = n.toNat + 1 := by
  have hne : n.toNat ≠ lastFailure.toNat := fun he => h (UInt32.toNat_inj.mp he)
  have hlt := n.toNat_lt
  have hlast : lastFailure.toNat = 0xffffffff := rfl
  have hone : (1 : UInt32).toNat = 1 := rfl
  rw [UInt32.toNat_add, hone]
  omega

/-! ## The policy -/

theorem enter_backoff (l : Lifecycle) (next : Phase) : (l.enter next).backoff = l.backoff := by
  unfold enter
  split <;> rfl

theorem enterPolling_backoff (l : Lifecycle) (now : Nat) :
    (l.enterPolling now).backoff = l.backoff := by
  have hbearing := congrArg (·.backoff) (l.bearing_enterPolling now)
  exact hbearing.trans (l.enter_backoff .polling)

theorem retry_policy (l : Lifecycle) (e : FetchError) (now : Nat) :
    (l.retry e now).1.backoff.policy = l.backoff.policy := by
  unfold retry
  dsimp only
  split
  · rfl
  · next delay backoff hnext =>
    rw [enterPolling_backoff]
    exact Backoff.Controller.nextDelay_policy hnext

/-- An outcome never changes the policy, also when it breaks off. -/
theorem receive_policy (l : Lifecycle) (outcome : Outcome) (now : Nat) :
    (l.receive outcome now).1.backoff.policy = l.backoff.policy := by
  have henter := l.enter_backoff .backoff
  by_cases h : l.phase = .polling
  · cases outcome with
    | ok chunk =>
      rw [l.receive_chunk chunk now h, l.receiveChunk_eq chunk h]
      rfl
    | error e =>
      rw [l.receive_error e now h]
      unfold receiveError
      dsimp only
      split
      · exact congrArg (·.policy) henter
      · split
        · exact congrArg (·.policy) henter
        · split
          · exact congrArg (·.policy) henter
          · exact (l.failed.retry_policy e now).trans (congrArg (·.policy) henter)
  · unfold receive
    rw [if_neg h]

theorem respond_policy (l : Lifecycle) (i : Input) :
    (l.respond i).1.backoff.policy = l.backoff.policy := by
  have hr := l.response i
  cases i with
  | receive outcome now =>
    rw [← l.receive_policy outcome now]
    simp only [respond]
    rcases l.receive outcome now with ⟨l', fault | command⟩ <;> rfl
  | start | delivered | requestClose | awaitHealth =>
    generalize l.respond _ = left at hr ⊢
    obtain ⟨l', output⟩ := left
    dsimp only at hr ⊢
    cases hr <;> rfl

/-- After any calls the policy is that of the options. -/
theorem after_policy (o : Options) (inputs : List Input) :
    ((ofOptions o).after inputs).backoff.policy = o.backoff :=
  after_induction (P := fun l => l.backoff.policy = o.backoff) _
    (fun l i h => (l.respond_policy i).trans h) rfl inputs

end Lifecycle

/-! ## The count of failures -/

/-- The policy is `p`, and as long as more may be fetched no more failures were counted than it
retries. -/
structure Bearing.Within (p : Backoff.Policy) (b : Bearing) : Prop where
  policy : b.backoff.policy = p
  failures : b.phase ≠ .backoff → b.phase ≠ .closed → b.failures.toNat ≤ p.maxRetries.toNat

section

variable {p : Backoff.Policy} {l l' : Lifecycle}

theorem Bearing.Within.le (h : l.bearing.Within p)
    (hphase : l.phase ≠ .backoff ∧ l.phase ≠ .closed) :
    l.failures.toNat ≤ p.maxRetries.toNat :=
  h.failures hphase.1 hphase.2

/-- A failure is retried only if the policy has retries left. -/
theorem Lifecycle.Response.failures_le {i : Input} {output : Output} (hr : l.Response i l' output)
    (h : l.bearing.Within p) :
    l'.phase ≠ .backoff → l'.phase ≠ .closed → l'.failures.toNat ≤ p.maxRetries.toNat := by
  cases hr with
  | ignored | asked | awaited => exact h.failures
  | started hphase | continued hphase => exact fun _ _ => h.le (by rw [hphase]; decide)
  | brought => exact fun _ _ => Nat.zero_le _
  | retried _ _ hmore =>
    intro _ _
    rw [show l.backoff.policy = p from h.policy] at hmore
    have hle := of_decide_eq_false hmore
    rw [UInt32.lt_iff_toNat_lt] at hle
    exact Nat.le_of_not_lt hle
  | failedLast => exact fun hne => absurd rfl hne
  | broken _ hphase => exact fun hne => absurd hphase hne
  | closed => exact fun _ hne => absurd rfl hne

namespace Bearing.Within

theorem ofOptions (o : Options) : (Lifecycle.ofOptions o).bearing.Within o.backoff :=
  ⟨rfl, fun _ _ => Nat.zero_le _⟩

theorem drained {b : Bearing} (h : b.Within p) : b.drained.Within p := ⟨h.policy, h.failures⟩

theorem of_drained {b : Bearing} (h : b.drained.Within p) : b.Within p := ⟨h.policy, h.failures⟩

theorem respond (h : l.bearing.Within p) (i : Input) : (l.respond i).1.bearing.Within p :=
  ⟨(l.respond_policy i).trans h.policy, (l.response i).failures_le h⟩

/-- Only a policy with the most retries lets as many failures be counted as there are numbers. -/
theorem maxRetries_eq (h : l.bearing.Within p) (hphase : l.phase = .polling)
    (hlast : l.failures = Lifecycle.lastFailure) : p.maxRetries = Lifecycle.lastFailure := by
  have hle := h.le (by rw [hphase]; decide)
  have hlt := p.maxRetries.toNat_lt
  have hmost : Lifecycle.lastFailure.toNat = 0xffffffff := rfl
  rw [hlast] at hle
  exact UInt32.toNat_inj.mp (by omega)

end Bearing.Within

end

end RemoteConsole
