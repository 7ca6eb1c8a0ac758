import RemoteConsole.Proofs.Course.Spell
import RemoteConsole.Proofs.Course.Twin
import RemoteConsole.Proofs.Course.Vigil

/-!
# Waiting for a fetch that never answers

* `Lull c feed k s`: the stream waits for the fetch `k`, which never answers. All that can happen is
  that its health signal goes up.
* `Lull.driver`, `Lull.time`: what the driver does, and how time passes.
* `Lull.next`: what comes next in a schedule, and `Lull.comes_to_rest`: after a while nothing comes,
  and the signal has gone up if there was a deadline.
-/

namespace RemoteConsole

open Schedule

variable {c : Client} {feed : Feed} {k : Nat} {s s' : Stream} {σ : Schedule}

/-- The signal while a fetch never answers: it is down, and its deadline lies ahead; or it went up
at the deadline. -/
inductive Hush (c : Client) (feed : Feed) (k : Nat) (s : Stream) : Prop
  | down (h : s.lifecycle.health.isUnhealthy = false)
      (hdeadline : s.lifecycle.health.deadline = feed.deadline? c.options k)
      (hahead : ∀ d, feed.deadline? c.options k = some d → s.now ≤ d)
      (halarms : s.alarms = feed.timeline c.options k)
  | up {d : Nat} (h : s.lifecycle.health.isUnhealthy = true)
      (hdeadline : feed.deadline? c.options k = some d)
      (halarms : s.alarms = feed.timeline c.options k ++ [(d, true)])

/-- A stream that fetches by itself and waits for the fetch `k`, which never answers. -/
structure Lull (c : Client) (feed : Feed) (k : Nat) (s : Stream) : Prop where
  tuned : Tuned c false s
  poller : s.poller = .direct
  closeWanted : s.closeWanted = false
  stage : ∃ due, s.stage = .waiting (.fetching ⟨due, .hang⟩)
  hush : Hush c feed k s

/-- Without a deadline the signal has done all that it does. -/
theorem Hush.alarms_eq (h : Hush c feed k s) (hnone : s.lifecycle.health.deadline = none) :
    s.alarms = feed.timeline c.options k ++ feed.spellAt c.options k none := by
  rw [Feed.spellAt_none]
  cases h with
  | down hdown hdeadline hahead halarms =>
    rw [halarms, ← hdeadline, hnone]
    exact (List.append_nil _).symm
  | up hup hdeadline halarms =>
    rw [halarms, hdeadline]
    rfl

namespace Lull

variable (h : Lull c feed k s)
include h

theorem isOver_eq : s.isOver = false := by
  obtain ⟨due, hstage⟩ := h.stage
  unfold Stream.isOver
  rw [hstage]

/-- Nothing but a deadline that has come lets the driver take a step. -/
theorem moveDriver_eq :
    s.moveDriver c.plan =
      if s.lifecycle.health.isDue s.now then some s.fireHealth else none := by
  obtain ⟨due, hstage⟩ := h.stage
  refine Stream.moveDriver_blocked hstage h.closeWanted ?_
  unfold Poller.move
  dsimp only
  split <;> rfl

/-- The time that is waited for is the deadline. -/
theorem wake?_eq : s.wake? = s.lifecycle.health.expiry? s.now := by
  obtain ⟨due, hstage⟩ := h.stage
  unfold Stream.wake? Stream.driverWake?
  rw [hstage, h.poller]
  cases s.lifecycle.health.expiry? s.now <;> rfl

theorem turn : Lull c feed k { s with turns := s.turns + 1 } := by
  refine ⟨h.tuned.congr rfl rfl, h.poller, h.closeWanted, h.stage, ?_⟩
  cases h.hush with
  | down hdown hdeadline hahead halarms => exact .down hdown hdeadline hahead halarms
  | up hup hdeadline halarms => exact .up hup hdeadline halarms

/-- Time passes up to the deadline. -/
theorem time {d : Nat} (hd : s.lifecycle.health.deadline = some d) :
    Lull c feed k (s.atTime (max s.now d)) := by
  refine ⟨h.tuned.congr rfl rfl, h.poller, h.closeWanted, h.stage, ?_⟩
  cases h.hush with
  | down hdown hdeadline hahead halarms =>
    refine .down hdown hdeadline (fun d' hd' => ?_) halarms
    cases hd.symm.trans (hdeadline.trans hd')
    have hle := hahead d hd'
    show max s.now (max s.now d) ≤ d
    omega
  | up hup hdeadline halarms => exact .up hup hdeadline halarms

/-- The signal goes up, unless it is up already, and there is no deadline any more. -/
theorem fireHealth (hdue : s.lifecycle.health.isDue s.now = true) :
    Lull c feed k s.fireHealth ∧ s.fireHealth.lifecycle.health.deadline = none := by
  obtain ⟨htuned, hdirect, hopen, hstage, hhush⟩ := h
  have hup := Health.Monitor.isUnhealthy_set { s.lifecycle.health with deadline := none } true
  rw [Stream.fireHealth_quiet htuned.quiet,
    Health.Monitor.fire_eq _ htuned.isEnabled hdue]
  refine ⟨⟨⟨htuned.quiet, htuned.arming, htuned.isEnabled, htuned.debounce, htuned.mode⟩,
    hdirect, hopen, hstage, ?_⟩, rfl⟩
  cases hhush with
  | down hdown hdeadline hahead halarms =>
    obtain ⟨d, hd⟩ := Option.isSome_iff_exists.mp (Stream.deadline_of_isDue hdue)
    have hd' := hdeadline.symm.trans hd
    have hnow : s.now = d :=
      Nat.le_antisymm (hahead d hd') (Health.Monitor.le_of_due _ hdue hd)
    refine .up hup hd' ?_
    rw [← halarms, ← hnow, hdown]
    exact List.filterMap_append
  | up h hdeadline halarms =>
    refine .up hup hdeadline ?_
    rw [← halarms, h]
    exact congrArg (List.filterMap _) (List.append_nil s.published)

end Lull

/-- How far a schedule is from the time at which no deadline is left: the deadline has to come, and
then the driver has to have its turn. -/
def Schedule.unrest (plan : Plan) (σ : Schedule) : Nat :=
  (match σ.stream.lifecycle.health.deadline with
    | none => 0
    | some d => if d ≤ σ.stream.now then 4 else 8) + σ.backlog plan

/-- What comes next is waiting again. If there is still a deadline, it is nearer. -/
theorem Lull.next (h : Lull c feed k σ.stream) (hq : Queued c.plan σ) :
    Lull c feed k (σ.next c.plan).stream ∧ Queued c.plan (σ.next c.plan) ∧
      ((σ.next c.plan).stream.lifecycle.health.deadline = none ∨
        σ.stream.lifecycle.health.deadline ≠ none ∧
          (σ.next c.plan).unrest c.plan < σ.unrest c.plan) := by
  cases hstep : σ.step c.plan with
  | some σ' =>
    rw [next_of_step hstep]
    obtain ⟨hq', ⟨t, hm⟩ | ⟨hturn, hlt⟩⟩ := step_cases hq hstep
    · cases t with
      | worker => cases (Stream.moveWorker_direct h.poller).symm.trans hm
      | driver =>
        have hm := h.moveDriver_eq.symm.trans hm
        split at hm
        · next hdue =>
          rw [← Option.some.inj hm]
          obtain ⟨hlull, hnone⟩ := h.fireHealth hdue
          exact ⟨hlull, hq', .inl hnone⟩
        · cases hm
    · rw [hturn]
      refine ⟨h.turn, hq', ?_⟩
      by_cases hnone : σ.stream.lifecycle.health.deadline = none
      · exact .inl hnone
      · refine .inr ⟨hnone, ?_⟩
        unfold unrest
        rw [hturn]
        exact Nat.add_lt_add_left hlt _
  | none =>
    obtain ⟨hbacklog, hblocked⟩ := step_eq_none hq hstep
    have hd := h.moveDriver_eq.symm.trans (hblocked .driver)
    have hwake := h.wake?_eq
    unfold Health.Monitor.expiry? at hwake
    cases hdeadline : σ.stream.lifecycle.health.deadline with
    | none =>
      rw [hdeadline] at hwake
      rw [next_of_rest hstep hwake]
      exact ⟨h, hq, .inl hdeadline⟩
    | some d =>
      rw [hdeadline] at hwake
      have hearly : σ.stream.now < d := by
        split at hd
        · cases hd
        · next hdue => exact Health.Monitor.lt_of_not_due _ (Bool.eq_false_iff.mpr hdue) hdeadline
      rw [next_of_wake hstep h.isOver_eq hwake]
      generalize hlater : σ.stream.atTime (max σ.stream.now d) = later
      have hqueued := queued_ofStream c.plan later
      have hsoon := backlog_le hqueued
      have hdeadline' : later.lifecycle.health.deadline = some d := hlater ▸ hdeadline
      have hcome : d ≤ later.now := by
        rw [← hlater]
        show d ≤ max σ.stream.now (max σ.stream.now d)
        omega
      rw [ofStream_stream]
      refine ⟨hlater ▸ h.time hdeadline, hqueued, .inr ⟨Option.some_ne_none d, ?_⟩⟩
      unfold unrest
      rw [ofStream_stream, hdeadline, hdeadline', hbacklog]
      dsimp only
      rw [if_neg (Nat.not_le.mpr hearly), if_pos hcome]
      omega

/-- Without a deadline it goes on waiting. -/
theorem Lull.rests (h : Lull c feed k σ.stream) (hq : Queued c.plan σ)
    (hnone : σ.stream.lifecycle.health.deadline = none) (n : Nat) :
    (after c.plan n σ).stream.alarms =
      feed.timeline c.options k ++ feed.spellAt c.options k none := by
  induction n generalizing σ with
  | zero => exact h.hush.alarms_eq hnone
  | succ n ih =>
    obtain ⟨hlull, hq', hnone' | ⟨hsome, -⟩⟩ := h.next hq
    · exact ih hlull hq' hnone'
    · exact absurd hnone hsome

/-- After a while the signal has gone up, if there was a deadline, and nothing happens any more. -/
theorem Lull.comes_to_rest (h : Lull c feed k σ.stream) (hq : Queued c.plan σ) :
    ∃ m, ∀ n, m ≤ n → (after c.plan n σ).stream.alarms =
      feed.timeline c.options k ++ feed.spellAt c.options k none := by
  generalize hb : σ.unrest c.plan = b
  induction b using Nat.strongRecOn generalizing σ with
  | _ b ih =>
    obtain ⟨hlull, hq', hnone | ⟨-, hlt⟩⟩ := h.next hq
    · refine ⟨1, fun n hn => ?_⟩
      obtain ⟨n, rfl⟩ := Nat.exists_eq_add_of_le' hn
      exact hlull.rests hq' hnone n
    · obtain ⟨m, hm⟩ := ih _ (hb ▸ hlt) hlull hq' rfl
      refine ⟨m + 1, fun n hn => ?_⟩
      obtain ⟨n, rfl⟩ := Nat.exists_eq_add_of_le' (Nat.le_of_add_left_le hn)
      exact hm n (Nat.le_of_add_le_add_right hn)

end RemoteConsole
