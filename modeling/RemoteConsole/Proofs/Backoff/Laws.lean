import Mathlib.Algebra.Group.Nat.Defs
import RemoteConsole.Options

/-!
# The delays of a streak of failures

* `Policy.IsOrdered`: what a client accepts of a policy: its steps are in order and below 63.
* `Policy.wait r`: the delay after the failure `r` of a streak, in numbers without a bound.
* `nextDelay_stepAfter`: under an ordered policy the step after `r` failures gives that delay, and
  leads to the step after `r + 1` failures.
* `IsOrdered.nextDelay_ok`: under an ordered policy every step gives a delay.
* `Options.validate_iff`: which options are valid.
-/

namespace RemoteConsole.Backoff.Policy

variable (p : Policy)

/-- The steps are in order, and the last is below 63. -/
structure IsOrdered : Prop where
  le : p.initialStep.toNat ≤ p.maxStep.toNat
  lt : p.maxStep.toNat < 63

/-- The exponent after `r` failures in a row. -/
def exponent (r : Nat) : Nat := min (p.initialStep.toNat + r) p.maxStep.toNat

/-- The step after `r` failures in a row. -/
def stepAfter (r : Nat) : UInt32 := .ofNat (p.exponent r)

/-- The delay after the failure `r` of a streak, counted from one. -/
def wait (r : Nat) : Nat :=
  min (2 ^ min (p.initialStep.toNat + r - 1) p.maxStep.toNat * p.unitMs.toNat) (2 ^ 64 - 1)

variable {p}

theorem IsOrdered.exponent_lt (h : p.IsOrdered) (r : Nat) : p.exponent r < 63 :=
  Nat.lt_of_le_of_lt (Nat.min_le_right _ _) h.lt

theorem IsOrdered.stepAfter_toNat (h : p.IsOrdered) (r : Nat) :
    (p.stepAfter r).toNat = p.exponent r := by
  have := h.exponent_lt r
  unfold stepAfter
  rw [UInt32.toNat_ofNat']
  omega

theorem IsOrdered.stepAfter_zero (h : p.IsOrdered) : p.stepAfter 0 = p.initialStep := by
  apply UInt32.toNat_inj.mp
  rw [h.stepAfter_toNat]
  exact Nat.min_eq_left h.le

/-- A step that a streak leads to is in the range of the policy. -/
theorem IsOrdered.clamp_stepAfter (h : p.IsOrdered) (r : Nat) :
    p.clamp (p.stepAfter r) = p.stepAfter r := by
  have hstep := h.stepAfter_toNat r
  have hle := h.le
  unfold exponent at hstep
  unfold clamp
  rw [if_neg, if_neg]
  · rw [UInt32.lt_iff_toNat_lt]; omega
  · rw [UInt32.lt_iff_toNat_lt]; omega

theorem IsOrdered.delay_stepAfter (h : p.IsOrdered) (r : Nat) :
    p.delay (p.stepAfter r) = p.wait (r + 1) := by
  have hlt := h.exponent_lt r
  have hstep := h.stepAfter_toNat r
  have hunits : units (p.stepAfter r) = 2 ^ p.exponent r := by
    unfold units
    have hsmall : p.stepAfter r < 64 := by
      rw [UInt32.lt_iff_toNat_lt, hstep]
      exact Nat.lt_trans hlt (by decide)
    rw [if_pos hsmall, hstep]
    rfl
  unfold delay wait
  rw [hunits]
  rfl

theorem IsOrdered.nextDelay_stepAfter (h : p.IsOrdered) (r : Nat) :
    p.nextDelay (p.stepAfter r) = .ok (p.wait (r + 1), p.stepAfter (r + 1)) := by
  have hlt := h.exponent_lt r
  have hstep := h.stepAfter_toNat r
  have hle := h.le
  have hmax := h.lt
  unfold nextDelay
  rw [if_neg (by rw [UInt32.lt_iff_toNat_lt]; omega)]
  dsimp only
  rw [h.clamp_stepAfter]
  have hlast : p.stepAfter r ≠ 0xffffffff := by
    intro he
    rw [he] at hstep
    have : (0xffffffff : UInt32).toNat = 0xffffffff := rfl
    omega
  have hsucc : (p.stepAfter r + 1).toNat = p.exponent r + 1 := by
    rw [UInt32.toNat_add, hstep]
    have : (1 : UInt32).toNat = 1 := rfl
    omega
  rw [if_neg hlast, h.delay_stepAfter]
  congr 2
  apply UInt32.toNat_inj.mp
  rw [h.stepAfter_toNat]
  unfold exponent at hsucc ⊢
  split
  · next hcap => rw [UInt32.lt_iff_toNat_lt] at hcap; omega
  · next hcap => rw [UInt32.lt_iff_toNat_lt] at hcap; omega

/-- At the step after `r` failures a controller waits for the next failure's time. -/
theorem IsOrdered.controller_nextDelay (h : p.IsOrdered) (r : Nat) :
    Controller.nextDelay ⟨p, p.stepAfter r⟩ =
      .ok (p.wait (r + 1), ⟨p, p.stepAfter (r + 1)⟩) := by
  unfold Controller.nextDelay
  rw [h.nextDelay_stepAfter]
  rfl

/-- Every step gives a delay, also one that no streak leads to: it is moved into the range. -/
theorem IsOrdered.nextDelay_ok (h : p.IsOrdered) (step : UInt32) :
    ∃ delay next, p.nextDelay step = .ok (delay, next) := by
  have hle := h.le
  have hmax := h.lt
  have hclamp : (p.clamp step).toNat < 63 := by
    unfold clamp
    simp only [UInt32.lt_iff_toNat_lt]
    split
    · omega
    · split <;> omega
  have hlast : p.clamp step ≠ 0xffffffff := by
    intro he
    rw [he] at hclamp
    exact absurd hclamp (by decide)
  unfold nextDelay
  rw [if_neg (by rw [UInt32.lt_iff_toNat_lt]; omega)]
  dsimp only
  rw [if_neg hlast]
  exact ⟨_, _, rfl⟩

end RemoteConsole.Backoff.Policy

namespace RemoteConsole

theorem Backoff.Controller.nextDelay_ok {c : Controller} (h : c.policy.IsOrdered) :
    ∃ delay c', c.nextDelay = .ok (delay, c') := by
  obtain ⟨delay, next, hnext⟩ := h.nextDelay_ok c.step
  unfold nextDelay
  rw [hnext]
  exact ⟨_, _, rfl⟩

/-- A controller keeps its policy. -/
theorem Backoff.Controller.nextDelay_policy {c c' : Controller} {delay : Nat}
    (h : c.nextDelay = .ok (delay, c')) : c'.policy = c.policy := by
  unfold nextDelay at h
  cases hnext : c.policy.nextDelay c.step with
  | error fault => rw [hnext] at h; cases h
  | ok next => rw [hnext] at h; cases h; rfl

/-- Options are valid if and only if the policy is ordered and both channels hold something. Nothing
is asked of the policy's unit and retries, and no size is too large. -/
theorem Options.validate_iff {o : Options} :
    o.validate = .ok () ↔
      o.backoff.IsOrdered ∧ 0 < o.workerCapacity.toNat ∧ 0 < o.eventCapacity.toNat := by
  have hpos (n : UInt64) : 0 < n.toNat ↔ n ≠ 0 := UInt64.pos_iff_ne_zero
  rw [hpos, hpos, ← not_or]
  unfold validate
  simp only [UInt32.lt_iff_toNat_lt, UInt32.le_iff_toNat_le]
  split
  · next hle => exact ⟨nofun, fun h => absurd h.1.le (Nat.not_le.mpr hle)⟩
  · next hle =>
    split
    · next hlt => exact ⟨nofun, fun h => absurd h.1.lt (Nat.not_lt.mpr hlt)⟩
    · next hlt =>
      have hordered : o.backoff.IsOrdered := ⟨Nat.le_of_not_lt hle, Nat.lt_of_not_le hlt⟩
      split
      · next hcap => exact ⟨nofun, fun h => absurd hcap h.2⟩
      · next hcap => exact ⟨fun _ => ⟨hordered, hcap⟩, fun _ => rfl⟩

/-- What valid options say of the policy and of the worker's channels. -/
theorem Options.accepted {o : Options} (h : o.validate = .ok ()) :
    o.backoff.IsOrdered ∧ 0 < o.workerCapacity.toNat :=
  (validate_iff.mp h).imp_right And.left

end RemoteConsole
