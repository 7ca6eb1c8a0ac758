import RemoteConsole.Health.Wait

/-!
# What a health monitor does

* `Watch.version_update`: those who watch a value are told of its changes only.
* `Monitor.IsOff`: the signal is of no interest any more. `isOff_disable`: so it is once the monitor
  is disabled.
* `Monitor.markPending_eq`, `fire_eq`: what a pending attempt and a deadline do while it is.
* `Monitor.isDue_iff`, `fire_of_not_due`: a deadline is applied once it has come, and not before.
* `Monitor.unhealthy_markPending`, `unhealthy_disable`, `isUnhealthy_set`: the signal after a change.
-/

namespace RemoteConsole

/-- Giving a value to what is watched is told if and only if the value is another one. -/
theorem Watch.version_update {α : Type} [DecidableEq α] (w : Watch α) (a : α) :
    (w.update a).version = w.version + if (w.update a).value = w.value then 0 else 1 := by
  unfold update
  split
  · rw [if_pos rfl]
    rfl
  · next hne =>
    have hvalue : (w.send a).value ≠ w.value := Ne.symm hne
    rw [if_neg hvalue]
    rfl

namespace Health.Monitor

/-- The signal is of no interest any more, nothing is pending, and it is down. -/
structure IsOff (m : Monitor) : Prop where
  disabled : m.isEnabled = false
  calm : m.deadline = none
  healthy : m.isUnhealthy = false

variable (m : Monitor)

/-- Another pending attempt changes nothing. -/
theorem markPending_markPending (now : Nat) :
    (m.markPending now).markPending now = m.markPending now := by
  obtain ⟨debounce, isEnabled, deadline, unhealthy⟩ := m
  cases isEnabled <;> cases deadline <;> rfl

/-- Without a deadline there is nothing to wait for. -/
theorem await_of_deadline {now limit : Nat} (h : m.deadline = none) :
    m.await now limit = ⟨m, now + limit, false⟩ := by
  simp [await, expiry?, h]

theorem isUnhealthy_set (u : Bool) : (m.set u).isUnhealthy = u := by
  unfold set isUnhealthy Watch.update
  dsimp only
  split
  · assumption
  · rfl

theorem isUnhealthy_markHealthy : m.markHealthy.isUnhealthy = false := isUnhealthy_set _ false

theorem isUnhealthy_disable : m.disable.isUnhealthy = false := isUnhealthy_set _ false

theorem isOff_disable : m.disable.IsOff := ⟨rfl, rfl, m.isUnhealthy_disable⟩

theorem unhealthy_markPending (now : Nat) : (m.markPending now).unhealthy = m.unhealthy := by
  unfold markPending
  split
  · split <;> rfl
  · rfl

/-- A monitor whose signal is down has it stay down when it is turned off. -/
theorem unhealthy_disable (h : m.isUnhealthy = false) : m.disable.unhealthy = m.unhealthy :=
  if_pos h

/-- While the signal is of interest, the first pending attempt sets the deadline. -/
theorem markPending_eq (h : m.isEnabled = true) (now : Nat) :
    m.markPending now =
      { m with deadline := m.deadline.or (some (now + m.debounce)) } := by
  obtain ⟨debounce, isEnabled, deadline, unhealthy⟩ := m
  cases h
  cases deadline <;> rfl

theorem isDue_iff {now : Nat} : m.isDue now = true ↔ ∃ d, m.deadline = some d ∧ d ≤ now := by
  unfold isDue
  cases m.deadline with
  | none => simp
  | some d => simp

/-- A deadline that has not come is ahead. -/
theorem lt_of_not_due {now d : Nat} (h : m.isDue now = false) (hd : m.deadline = some d) :
    now < d := by
  unfold isDue at h
  rw [hd] at h
  exact Nat.lt_of_not_le (of_decide_eq_false h)

theorem le_of_due {now d : Nat} (h : m.isDue now = true) (hd : m.deadline = some d) : d ≤ now := by
  unfold isDue at h
  rw [hd] at h
  exact of_decide_eq_true h

/-- While the signal is of interest, it goes up when the deadline comes. -/
theorem fire_eq {now : Nat} (h : m.isEnabled = true) (hdue : m.isDue now = true) :
    m.fire now = ({ m with deadline := none }.set true, !m.isUnhealthy) := by
  simp only [fire, hdue, h, ↓reduceIte]

/-- Before its deadline a monitor does nothing. -/
theorem fire_of_not_due {now : Nat} (h : m.isDue now = false) : m.fire now = (m, false) := by
  unfold fire
  rw [h]
  rfl

end Health.Monitor

end RemoteConsole
