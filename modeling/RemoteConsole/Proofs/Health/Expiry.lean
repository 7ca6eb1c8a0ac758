import RemoteConsole.Proofs.Health.Laws

/-!
# The wait for the health signal

The wait is a loop: every round sleeps until the deadline and applies it, and the loop ends when the
signal became true by that.

* `Monitor.round?`: what a round comes to; without a deadline it is never over.
* `Monitor.Waits`: the rounds that a wait begins, and how it ends.
* `Monitor.waits_iff`: there are two rounds at most, and the first decides.
* `Monitor.Waits.ends_iff`, `Waits.ends_at`: whether a wait ends, and when.
* `Monitor.Waits.await_iff`: waiting for a time at most is the same wait, cut off.
-/

namespace RemoteConsole.Health.Monitor

/-- What a round comes to that begins at a time. Without a deadline there is nothing to wake up
for. -/
def round? (m : Monitor) (now : Nat) : Option (Waited Monitor) :=
  (m.expiry? now).map fun t => ⟨(m.fire t).1, t, (m.fire t).2⟩

/-- The wait from a time on: the number of rounds that it begins, and how it ends, unless the last
of them is never over. -/
inductive Waits : Monitor → Nat → Nat → Option (Waited Monitor) → Prop
  | asleep {m : Monitor} {now : Nat} (h : m.round? now = none) : Waits m now 1 none
  | raised {m : Monitor} {now : Nat} {w : Waited Monitor} (h : m.round? now = some w)
      (hraised : w.raised = true) : Waits m now 1 (some w)
  | again {m : Monitor} {now : Nat} {w : Waited Monitor} {rounds : Nat}
      {ending : Option (Waited Monitor)} (h : m.round? now = some w) (hraised : w.raised = false)
      (hrest : Waits w.state w.now rounds ending) : Waits m now (rounds + 1) ending

variable {m : Monitor} {now rounds : Nat} {ending : Option (Waited Monitor)}

/-- A deadline that has been applied is gone. -/
theorem fire_deadline (h : m.isDue now = true) : (m.fire now).1.deadline = none := by
  unfold fire
  rw [if_pos h]
  split <;> rfl

/-- A round wakes up when its deadline has come. -/
theorem isDue_expiry {t : Nat} (h : m.expiry? now = some t) : m.isDue t = true := by
  obtain ⟨d, hd, rfl⟩ := Option.map_eq_some_iff.mp h
  exact m.isDue_iff.mpr ⟨d, hd, Nat.le_max_right now d⟩

/-- The round after another one is never over. -/
theorem round?_round? {w : Waited Monitor} (h : m.round? now = some w) :
    w.state.round? w.now = none := by
  obtain ⟨t, ht, rfl⟩ := Option.map_eq_some_iff.mp h
  have hgone := fire_deadline (isDue_expiry ht)
  unfold round? expiry?
  rw [hgone]
  rfl

/-- The first round of a wait decides: it is never over, or it ends the wait, or the wait falls
asleep in the second. -/
theorem waits_iff : m.Waits now rounds ending ↔
    (m.round? now = none ∧ rounds = 1 ∧ ending = none) ∨
    (∃ w, m.round? now = some w ∧ w.raised = true ∧ rounds = 1 ∧ ending = some w) ∨
    ∃ w, m.round? now = some w ∧ w.raised = false ∧ rounds = 2 ∧ ending = none := by
  constructor
  · intro h
    cases h with
    | asleep h => exact .inl ⟨h, rfl, rfl⟩
    | raised h hraised => exact .inr (.inl ⟨_, h, hraised, rfl, rfl⟩)
    | again h hraised hrest =>
      have hnone := round?_round? h
      cases hrest with
      | asleep => exact .inr (.inr ⟨_, h, hraised, rfl, rfl⟩)
      | raised hnext | again hnext => cases hnone.symm.trans hnext
  · rintro (⟨h, rfl, rfl⟩ | ⟨w, h, hraised, rfl, rfl⟩ | ⟨w, h, hraised, rfl, rfl⟩)
    · exact .asleep h
    · exact .raised h hraised
    · exact .again h hraised (.asleep (round?_round? h))

/-- Every wait takes its course. -/
theorem exists_waits (m : Monitor) (now : Nat) : ∃ rounds ending, m.Waits now rounds ending := by
  cases h : m.round? now with
  | none => exact ⟨1, none, .asleep h⟩
  | some w =>
    cases hraised : w.raised with
    | true => exact ⟨1, some w, .raised h hraised⟩
    | false => exact ⟨2, none, .again h hraised (.asleep (round?_round? h))⟩

namespace Waits

theorem rounds_le (h : m.Waits now rounds ending) : rounds ≤ 2 := by
  rcases waits_iff.mp h with ⟨-, rfl, -⟩ | ⟨-, -, -, rfl, -⟩ | ⟨-, -, -, rfl, -⟩ <;> decide

/-- A wait ends by a round that made the signal true. -/
theorem ending_eq_some_iff (h : m.Waits now rounds ending) {w : Waited Monitor} :
    ending = some w ↔ m.round? now = some w ∧ w.raised = true := by
  rcases waits_iff.mp h with ⟨hround, -, rfl⟩ | ⟨w', hround, hraised, -, rfl⟩ |
    ⟨w', hround, hraised, -, rfl⟩
  · simp [hround]
  · simp only [hround, Option.some.injEq]
    exact ⟨fun he => ⟨he, he ▸ hraised⟩, And.left⟩
  · rw [hround]
    refine ⟨nofun, fun ⟨he, hw⟩ => ?_⟩
    cases he
    rw [hraised] at hw
    cases hw

/-- While the signal is of interest, a wait ends if a deadline is pending and the signal is not true
already. -/
theorem ends_iff (h : m.Waits now rounds ending) (hon : m.deadline.isSome → m.isEnabled = true) :
    ending.isSome = true ↔ m.deadline.isSome = true ∧ m.isUnhealthy = false := by
  rw [Option.isSome_iff_exists]
  simp only [h.ending_eq_some_iff]
  unfold round? expiry?
  cases hd : m.deadline with
  | none => simp
  | some d =>
    have hdue : m.isDue (max now d) = true := m.isDue_iff.mpr ⟨d, hd, Nat.le_max_right now d⟩
    have hfire := m.fire_eq (hon (by rw [hd]; rfl)) hdue
    simp [hfire]

/-- It ends at the deadline, or at once if that is past, and leaves the signal true. -/
theorem ends_at (h : m.Waits now rounds ending) (hon : m.deadline.isSome → m.isEnabled = true)
    {w : Waited Monitor} (hw : ending = some w) :
    (∃ d, m.deadline = some d ∧ w.now = max now d) ∧ w.state.isUnhealthy = true := by
  obtain ⟨hround, -⟩ := h.ending_eq_some_iff.mp hw
  obtain ⟨t, ht, rfl⟩ := Option.map_eq_some_iff.mp hround
  obtain ⟨d, hd, rfl⟩ := Option.map_eq_some_iff.mp ht
  refine ⟨⟨d, hd, rfl⟩, ?_⟩
  rw [m.fire_eq (hon (by rw [hd]; rfl)) (isDue_expiry ht)]
  exact isUnhealthy_set _ true

/-- Waiting for a time at most ends with the signal if the wait ends within that time. -/
theorem await_iff (h : m.Waits now rounds ending) (limit : Nat) (w : Waited Monitor) :
    m.await now limit = w ∧ w.raised = true ↔ ending = some w ∧ w.now ≤ now + limit := by
  rw [h.ending_eq_some_iff]
  unfold await round?
  cases m.expiry? now with
  | none =>
    constructor
    · rintro ⟨rfl, hraised⟩
      cases hraised
    · rintro ⟨⟨hnone, -⟩, -⟩
      cases hnone
  | some t =>
    simp only [Option.map_some, Option.some.injEq]
    by_cases ht : t ≤ now + limit
    · rw [if_pos ht]
      cases hfire : m.fire t with
      | mk m' raised =>
        cases raised with
        | true =>
          constructor
          · rintro ⟨rfl, -⟩
            exact ⟨⟨rfl, rfl⟩, ht⟩
          · rintro ⟨⟨rfl, -⟩, -⟩
            exact ⟨rfl, rfl⟩
        | false =>
          constructor
          · rintro ⟨rfl, hraised⟩
            cases hraised
          · rintro ⟨⟨rfl, hraised⟩, -⟩
            cases hraised
    · rw [if_neg ht]
      constructor
      · rintro ⟨rfl, hraised⟩
        cases hraised
      · rintro ⟨⟨rfl, -⟩, hle⟩
        exact absurd hle ht

end Waits

end RemoteConsole.Health.Monitor
