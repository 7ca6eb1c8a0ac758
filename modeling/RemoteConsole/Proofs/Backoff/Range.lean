import Mathlib.Algebra.Group.Nat.Defs
import RemoteConsole.Backoff
import RemoteConsole.Proofs.Visits

/-!
# Delays for any policy and any step

A policy need not be one that a client accepts: here are all steps of 32 bits and all units of 64.

* `Policy.clamp_toNat`, `ofSteps_maxStep`, `withUnit_unitMs`: the parts in numbers without a bound.
* `Policy.delay_toNat`: a delay is the power of two of its step, as far as 64 bits hold it.
  `delay_mono`: it does not decrease with the step.
* `Policy.nextDelay_eq`: what a step comes to; only the last step of all breaks off.
* `Controller.Call`, `Controller.take`: the calls on a controller. `Controller.Within.take`: each of
  them keeps its step within bounds.
* `Policy.delay_of_every_step`: the delays of a policy that was put together from any numbers, and the
  steps of a controller that follows it. `no_delay_at_last_step`: there is one step that has none.
-/

namespace RemoteConsole.Backoff

namespace Policy

variable {p : Policy} {step step' : UInt32}

/-! ## The parts -/

theorem clamp_toNat (h : p.initialStep.toNat ≤ p.maxStep.toNat) (step : UInt32) :
    (p.clamp step).toNat = max p.initialStep.toNat (min step.toNat p.maxStep.toNat) := by
  unfold clamp
  simp only [UInt32.lt_iff_toNat_lt]
  split
  · omega
  · split <;> omega

theorem clamp_le_clamp (h : p.initialStep.toNat ≤ p.maxStep.toNat) (hle : step ≤ step') :
    (p.clamp step).toNat ≤ (p.clamp step').toNat := by
  rw [UInt32.le_iff_toNat_le] at hle
  rw [clamp_toNat h, clamp_toNat h]
  omega

theorem ofSteps_maxStep (initial top : UInt32) :
    (ofSteps initial top).maxStep.toNat = max initial.toNat top.toNat := by
  unfold ofSteps
  simp only [UInt32.lt_iff_toNat_lt]
  split <;> omega

theorem withUnit_unitMs (p : Policy) (unit : UInt64) :
    (p.withUnit unit).unitMs.toNat = max unit.toNat 1 := by
  unfold withUnit
  dsimp only
  split
  · next h =>
    rw [h]
    rfl
  · next h =>
    have hpos : unit.toNat ≠ 0 := fun h0 => h (UInt64.toNat_inj.mp h0)
    omega

/-- The delay at a step is a power of two of units, up to the longest. Past the step 63 a unit of one
millisecond is enough for the longest. -/
theorem delay_toNat (hunit : 1 ≤ p.unitMs.toNat) (step : UInt32) :
    p.delay step = min (2 ^ step.toNat * p.unitMs.toNat) (2 ^ 64 - 1) := by
  have hlongest : longestDelay = 2 ^ 64 - 1 := rfl
  unfold delay units
  simp only [UInt32.lt_iff_toNat_lt, hlongest]
  split
  · rfl
  · next hlarge =>
    have hstep : 64 ≤ step.toNat := Nat.le_of_not_lt hlarge
    have hpow : 2 ^ 64 ≤ 2 ^ step.toNat := Nat.pow_le_pow_right (by decide) hstep
    have hword : 2 ^ 64 - 1 ≤ (2 ^ 64 - 1) * p.unitMs.toNat := Nat.le_mul_of_pos_right _ hunit
    have hlong : 2 ^ step.toNat ≤ 2 ^ step.toNat * p.unitMs.toNat :=
      Nat.le_mul_of_pos_right _ hunit
    omega

theorem delay_mono (hunit : 1 ≤ p.unitMs.toNat) (h : step.toNat ≤ step'.toNat) :
    p.delay step ≤ p.delay step' := by
  have hpow := Nat.pow_le_pow_right (n := 2) (by decide) h
  have hmul := Nat.mul_le_mul_right p.unitMs.toNat hpow
  rw [delay_toNat hunit, delay_toNat hunit]
  omega

/-! ## A step -/

/-- What a step comes to: the delay at the step, moved into the range, and the step after it, which
the last step of all does not have. -/
theorem nextDelay_eq (h : p.initialStep.toNat ≤ p.maxStep.toNat) (step : UInt32) :
    p.nextDelay step =
      if (p.clamp step).toNat = 2 ^ 32 - 1 then .error .counterOverflow
      else .ok (p.delay (p.clamp step), .ofNat (min ((p.clamp step).toNat + 1) p.maxStep.toNat)) := by
  have hordered : ¬ p.maxStep < p.initialStep := by
    rw [UInt32.lt_iff_toNat_lt]
    omega
  have hlast : p.clamp step = 0xffffffff ↔ (p.clamp step).toNat = 2 ^ 32 - 1 :=
    UInt32.toNat_inj.symm
  unfold nextDelay
  rw [if_neg hordered]
  dsimp only
  by_cases hs : p.clamp step = 0xffffffff
  · rw [if_pos hs, if_pos (hlast.mp hs)]
  · rw [if_neg hs, if_neg (mt hlast.mpr hs)]
    congr 2
    apply UInt32.toNat_inj.mp
    have hmax := p.maxStep.toNat_lt
    have hstep := (p.clamp step).toNat_lt
    have hsucc : (p.clamp step + 1).toNat = (p.clamp step).toNat + 1 := by
      have hone : (1 : UInt32).toNat = 1 := rfl
      have hne := mt hlast.mpr hs
      rw [UInt32.toNat_add, hone]
      omega
    rw [UInt32.toNat_ofNat']
    simp only [UInt32.lt_iff_toNat_lt, hsucc]
    split <;> omega

/-- The delays that two steps come to are in the order of the steps. -/
theorem nextDelay_mono (h : p.initialStep.toNat ≤ p.maxStep.toNat) (hunit : 1 ≤ p.unitMs.toNat)
    (hle : step ≤ step') {d d' : Nat} {next next' : UInt32} (hd : p.nextDelay step = .ok (d, next))
    (hd' : p.nextDelay step' = .ok (d', next')) : d ≤ d' := by
  rw [nextDelay_eq h] at hd hd'
  split at hd
  · cases hd
  · split at hd'
    · cases hd'
    · cases hd
      cases hd'
      exact delay_mono hunit (clamp_le_clamp h hle)

/-- The step after a step is in the range of the policy. -/
theorem next_of_nextDelay (h : p.initialStep.toNat ≤ p.maxStep.toNat) {d : Nat} {next : UInt32}
    (hd : p.nextDelay step = .ok (d, next)) :
    p.initialStep.toNat ≤ next.toNat ∧ next.toNat ≤ p.maxStep.toNat := by
  have hclamp := clamp_toNat h step
  have hmax := p.maxStep.toNat_lt
  rw [nextDelay_eq h] at hd
  split at hd
  · cases hd
  · cases hd
    rw [UInt32.toNat_ofNat']
    omega

end Policy

/-! ## A controller -/

namespace Controller

/-- A call on a controller. -/
inductive Call where
  | nextDelay
  | reset
deriving DecidableEq, Repr

/-- What a call answers: a delay, or the step that the controller is back at. -/
inductive Answer where
  | delay (delay : Nat)
  | step (step : UInt32)
deriving DecidableEq, Repr

/-- Makes a call. A call that breaks off leaves the controller as it was. -/
def take (c : Controller) : Call → Controller × Except Fault Answer
  | .nextDelay =>
    match c.nextDelay with
    | .ok (delay, c') => (c', .ok (.delay delay))
    | .error fault => (c, .error fault)
  | .reset => (c.reset, .ok (.step c.reset.step))

/-- A controller that follows a policy and is at one of its steps. -/
structure Within (p : Policy) (c : Controller) : Prop where
  policy : c.policy = p
  le : p.initialStep.toNat ≤ c.step.toNat
  ge : c.step.toNat ≤ p.maxStep.toNat

variable {p : Policy} {c : Controller}

theorem within_ofPolicy (h : p.initialStep.toNat ≤ p.maxStep.toNat) : Within p (ofPolicy p) where
  policy := rfl
  le := Nat.le_refl _
  ge := h

/-- A call leaves the controller at a step of its policy, also when it breaks off. -/
theorem Within.take (h : p.initialStep.toNat ≤ p.maxStep.toNat) (hc : Within p c) (call : Call) :
    Within p (c.take call).1 := by
  obtain ⟨rfl, hle, hge⟩ := hc
  cases call with
  | reset => exact ⟨rfl, Nat.le_refl _, h⟩
  | nextDelay =>
    unfold Controller.take Controller.nextDelay
    cases hnext : c.policy.nextDelay c.step with
    | error fault => exact ⟨rfl, hle, hge⟩
    | ok next =>
      obtain ⟨hlow, hhigh⟩ := Policy.next_of_nextDelay h hnext
      exact ⟨rfl, hlow, hhigh⟩

theorem within_stateAfter (h : p.initialStep.toNat ≤ p.maxStep.toNat) (calls : List Call) :
    Within p (stateAfter take (ofPolicy p) calls) :=
  (forall_visits (Q := fun _ => True) (fun _ call hc => ⟨hc.take h call, trivial⟩)
    (within_ofPolicy h) calls).1

end Controller

/-- For any numbers: a step is moved into the range from the first step to the last; its delay is the
power of two of that in units of one millisecond at least, as far as 64 bits hold it, and the step
after it is the next one, as far as the last. The one step that has no delay is the largest number of
32 bits, since no number of 32 bits follows it. Delays do not decrease with the step, and a
controller is always at a step of the range, whatever it is asked. -/
theorem Policy.delay_of_every_step {p : Policy} {initial top : UInt32} {unit : UInt64}
    (hp : p = (ofSteps initial top).withUnit unit) :
    let last := max initial.toNat top.toNat
    (∀ step : UInt32,
      let s := max initial.toNat (min step.toNat last)
      p.nextDelay step =
        if s = 2 ^ 32 - 1 then .error .counterOverflow
        else .ok (min (2 ^ s * max unit.toNat 1) (2 ^ 64 - 1), .ofNat (min (s + 1) last))) ∧
    (∀ step step' d d' next next', step ≤ step' → p.nextDelay step = .ok (d, next) →
      p.nextDelay step' = .ok (d', next') → d ≤ d') ∧
    ∀ calls, let c := stateAfter Controller.take (.ofPolicy p) calls
      c.policy = p ∧ initial.toNat ≤ c.step.toNat ∧ c.step.toNat ≤ last := by
  intro last
  have hinitial : p.initialStep = initial := by rw [hp]; rfl
  have hlast : p.maxStep.toNat = last := by rw [hp]; exact ofSteps_maxStep initial top
  have hunit : p.unitMs.toNat = max unit.toNat 1 := by rw [hp]; exact withUnit_unitMs _ unit
  have hone : 1 ≤ p.unitMs.toNat := by omega
  have hordered : p.initialStep.toNat ≤ p.maxStep.toNat := by
    rw [hinitial, hlast]
    exact Nat.le_max_left _ _
  refine ⟨fun step => ?_, fun _ _ _ _ _ _ hle hd hd' => nextDelay_mono hordered hone hle hd hd',
    fun calls => ?_⟩
  · rw [nextDelay_eq hordered, delay_toNat hone, clamp_toNat hordered, hunit, hlast, hinitial]
  · obtain ⟨hpolicy, hle, hge⟩ := Controller.within_stateAfter hordered calls
    exact ⟨hpolicy, hinitial ▸ hle, hlast ▸ hge⟩

/-- Steps below and above the range, and a controller that is asked three times. -/
theorem Policy.delay_of_every_step_brief :
    let p := (ofSteps 8 9).withUnit 0
    p.nextDelay 0 = .ok (256, 9) ∧ p.nextDelay 30 = .ok (512, 9) ∧ 256 ≤ 512 ∧
    (stateAfter Controller.take (.ofPolicy p) [.nextDelay, .nextDelay, .nextDelay]).step.toNat ≤ 9 := by
  intro p
  obtain ⟨hdelay, hmono, hcontroller⟩ := @delay_of_every_step p 8 9 0 rfl
  have hbelow : p.nextDelay 0 = .ok (256, 9) := hdelay 0
  have habove : p.nextDelay 30 = .ok (512, 9) := hdelay 30
  have hle : (0 : UInt32) ≤ 30 := by decide
  exact ⟨hbelow, habove, hmono 0 30 _ _ _ _ hle hbelow habove, (hcontroller _).2.2⟩

/-- At the last step of all the longest delay would be due, and the step would stay where it is. -/
theorem Policy.no_delay_at_last_step :
    ((ofSteps 0xffffffff 0xffffffff).withUnit 1).nextDelay 0xffffffff = .error .counterOverflow ∧
    ¬ ∀ (initial top step : UInt32) (unit : UInt64),
      let last := max initial.toNat top.toNat
      let s := max initial.toNat (min step.toNat last)
      ((ofSteps initial top).withUnit unit).nextDelay step =
        .ok (min (2 ^ s * max unit.toNat 1) (2 ^ 64 - 1), .ofNat (min (s + 1) last)) := by
  have hbroken : ((ofSteps 0xffffffff 0xffffffff).withUnit 1).nextDelay 0xffffffff =
      .error .counterOverflow := rfl
  refine ⟨hbroken, fun h => ?_⟩
  have hdelay := h 0xffffffff 0xffffffff 0xffffffff 1
  cases hbroken.symm.trans hdelay

end RemoteConsole.Backoff
