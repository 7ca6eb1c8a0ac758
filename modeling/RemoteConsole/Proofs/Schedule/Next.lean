import Mathlib.Data.Nat.Find
import RemoteConsole.Proofs.Stream.Steps

/-!
# A schedule without bounds

* `Schedule.next`, `Schedule.after`: what comes next in a schedule, at this time or at a later one.
  There is no bound on the number of steps.
* `Schedule.Queued`: the shapes of a queue: whatever can take a step has its turn before long.
* `step_cases`: a step is one of the driver or the worker, or ends a turn and shortens the
  `backlog`.
* `runUntil_of_after`: a rehearsal with large enough bounds ends as the schedule does.
-/

namespace RemoteConsole

namespace Task

theorem eq_or_eq_other (t u : Task) : u = t ∨ u = t.other := by
  cases t <;> cases u <;> simp [other]

end Task

/-- Whether a task can move does not depend on the turns before. -/
theorem Stream.canMove_turns (plan : Plan) (s : Stream) (n : Nat) (t : Task) :
    ({ s with turns := n } : Stream).canMove plan t = s.canMove plan t := by
  unfold canMove move
  cases t with
  | worker =>
    unfold moveWorker
    dsimp only
    rw [Option.isSome_map, Option.isSome_map]
  | driver =>
    unfold moveDriver
    dsimp only
    split
    · rfl
    · rfl
    · unfold await
      dsimp only
      split
      · rfl
      · split
        · rfl
        · rfl
        · rfl
        · split <;> rfl
    · rfl
    · rfl
    · rfl

namespace Schedule

variable {plan : Plan} {c c' : Schedule} {s : Stream}

/-- What comes next: a step of the task whose turn it is, the end of its turn, or a later time. A
stream that is over stays as it is. -/
def next (plan : Plan) (c : Schedule) : Schedule :=
  match c.step plan with
  | some c' => c'
  | none =>
    if c.stream.isOver then c
    else
      match c.stream.wake? with
      | some t => ofStream plan (c.stream.atTime t)
      | none => c

/-- The schedule after so many steps. -/
def after (plan : Plan) : Nat → Schedule → Schedule
  | 0, c => c
  | n + 1, c => after plan n (c.next plan)

/-- The stream is over, and no task has a turn left. -/
def IsDone (plan : Plan) (c : Schedule) : Prop := c.step plan = none ∧ c.stream.isOver = true

theorem after_add (plan : Plan) (m n : Nat) (c : Schedule) :
    after plan (m + n) c = after plan n (after plan m c) := by
  induction m generalizing c with
  | zero => rw [Nat.zero_add]; rfl
  | succ m ih => rw [Nat.succ_add]; exact ih (c.next plan)

theorem next_of_step (h : c.step plan = some c') : c.next plan = c' := by
  unfold next; rw [h]

/-- When no task has a turn left, the stream goes on at the time that it waits for. -/
theorem next_of_wake (hstep : c.step plan = none) (hover : c.stream.isOver = false) {t : Nat}
    (hwake : c.stream.wake? = some t) : c.next plan = ofStream plan (c.stream.atTime t) := by
  unfold next
  rw [hstep, hover, hwake]
  rfl

theorem next_of_rest (hstep : c.step plan = none) (hwake : c.stream.wake? = none) :
    c.next plan = c := by
  unfold next
  rw [hstep, hwake]
  exact ite_self c

/-- Only a schedule without a queue has no next step. -/
theorem step_eq_none_iff : c.step plan = none ↔ c.queue = [] := by
  unfold step
  split
  · next hqueue => exact ⟨fun _ => hqueue, fun _ => rfl⟩
  · next hqueue =>
    rw [hqueue]
    split <;> exact ⟨nofun, nofun⟩

/-- The task whose turn it is takes its step. -/
theorem next_of_move {t : Task} {rest : List Task} (hqueue : c.queue = t :: rest)
    (hm : c.stream.move plan t = some s) : c.next plan = ⟨s, c.queue⟩ := by
  refine next_of_step ?_
  unfold step
  rw [hqueue]
  dsimp only
  rw [hm]

/-- The task whose turn it is can take no step, and its turn ends. -/
theorem next_of_turn {t : Task} {rest : List Task} (hqueue : c.queue = t :: rest)
    (hm : c.stream.move plan t = none) :
    c.next plan =
      enqueue plan ⟨{ c.stream with turns := c.stream.turns + 1 }, rest⟩ t.other := by
  refine next_of_step ?_
  unfold step
  rw [hqueue]
  dsimp only
  rw [hm]

/-- A schedule takes a stream only where its steps lead. -/
theorem reach_next (plan : Plan) (c : Schedule) :
    Stream.Reach plan c.stream (c.next plan).stream := by
  unfold next
  split
  · next c' hstep => exact .single (step_reach hstep)
  · split
    · exact .refl
    · split
      · next t _ =>
        rw [ofStream_stream]
        exact .single (.time t)
      · exact .refl

theorem reach_after (plan : Plan) (n : Nat) (c : Schedule) :
    Stream.Reach plan c.stream (after plan n c).stream := by
  induction n generalizing c with
  | zero => exact .refl
  | succ n ih => exact (reach_next plan c).trans (ih (c.next plan))

theorem IsDone.next_eq (h : c.IsDone plan) : c.next plan = c := by
  obtain ⟨hstep, hover⟩ := h
  unfold next
  rw [hstep]
  exact if_pos hover

theorem IsDone.after_eq (h : c.IsDone plan) (n : Nat) : after plan n c = c := by
  induction n with
  | zero => rfl
  | succ n ih => unfold after; rw [h.next_eq]; exact ih

/-! ## Queues -/

/-- The shapes of a queue. When it is empty, no task can move; otherwise one of the two is first,
and the other has its turn after that. -/
inductive Queued (plan : Plan) : Schedule → Prop
  | none {s : Stream} (h : ∀ t, s.canMove plan t = false) : Queued plan ⟨s, []⟩
  | one {s : Stream} (t : Task) : Queued plan ⟨s, [t]⟩
  | two {s : Stream} (t : Task) : Queued plan ⟨s, [t, t.other]⟩

/-- A bound for what comes before a task can move. -/
def backlog (plan : Plan) (c : Schedule) : Nat :=
  match c.queue with
  | [] => 1
  | t :: rest => if c.stream.canMove plan t then 0 else rest.length + 2

/-- The queue of the tasks that can move. -/
theorem ofStream_eq (plan : Plan) (s : Stream) :
    ofStream plan s = ⟨s, (if s.canMove plan .driver then [.driver] else []) ++
      if s.canMove plan .worker then [.worker] else []⟩ := by
  unfold ofStream enqueue
  cases hd : s.canMove plan .driver <;> cases hw : s.canMove plan .worker <;> simp [hw]

theorem queued_ofStream (plan : Plan) (s : Stream) : Queued plan (ofStream plan s) := by
  rw [ofStream_eq]
  cases hd : s.canMove plan .driver with
  | true =>
    cases hw : s.canMove plan .worker with
    | true => exact .two .driver
    | false => exact .one .driver
  | false =>
    cases hw : s.canMove plan .worker with
    | true => exact .one .worker
    | false =>
      refine .none fun t => ?_
      cases t with
      | driver => exact hd
      | worker => exact hw

/-- At a time at which a task can move, the first task can. -/
theorem backlog_ofStream {t : Task} (h : s.canMove plan t = true) :
    (ofStream plan s).backlog plan = 0 := by
  rw [ofStream_eq]
  unfold backlog
  cases hd : s.canMove plan .driver with
  | true => exact if_pos hd
  | false =>
    cases hw : s.canMove plan .worker with
    | true => exact if_pos hw
    | false => cases t <;> simp_all

theorem move_eq_none {t : Task} (h : s.move plan t = none) : s.canMove plan t = false := by
  unfold Stream.canMove; rw [h]; rfl

/-- The step is one of the task whose turn it is, or the end of its turn. -/
theorem step_turn (h : c.step plan = some c') :
    ∃ t rest, c.queue = t :: rest ∧
      ((∃ s, c.stream.move plan t = some s ∧ c' = ⟨s, c.queue⟩) ∨
        c.stream.move plan t = none ∧
          c' = enqueue plan ⟨{ c.stream with turns := c.stream.turns + 1 }, rest⟩ t.other) := by
  unfold step at h
  split at h
  · cases h
  · next t rest hqueue =>
    refine ⟨t, rest, hqueue, ?_⟩
    split at h
    · next s hm => cases h; exact .inl ⟨s, hm, rfl⟩
    · next hm => cases h; exact .inr ⟨hm, rfl⟩

/-- A step is one of the driver or the worker, or the end of a turn. -/
theorem step_cases (hq : Queued plan c) (h : c.step plan = some c') :
    Queued plan c' ∧ ((∃ t, c.stream.move plan t = some c'.stream) ∨
      c'.stream = { c.stream with turns := c.stream.turns + 1 } ∧
        c'.backlog plan < c.backlog plan) := by
  cases hq with
  | none => cases h
  | @one s t =>
    unfold step at h
    dsimp only at h
    split at h
    · next s' hm => cases h; exact ⟨.one t, .inl ⟨t, hm⟩⟩
    · next hm =>
      cases h
      have hblocked := move_eq_none hm
      have hbefore : backlog plan ⟨s, [t]⟩ = 2 := by
        unfold backlog; dsimp only; rw [hblocked]; rfl
      rw [hbefore]
      unfold enqueue
      dsimp only
      by_cases hother : s.canMove plan t.other = true
      · rw [if_pos ⟨(s.canMove_turns plan _ _).trans hother, List.not_mem_nil⟩]
        refine ⟨.one t.other, .inr ⟨rfl, ?_⟩⟩
        unfold backlog
        simp only [List.nil_append, s.canMove_turns plan, hother, ↓reduceIte]
        decide
      · rw [if_neg fun hand => hother ((s.canMove_turns plan _ _).symm.trans hand.1)]
        refine ⟨.none fun u => ?_, .inr ⟨rfl, Nat.lt_succ_self 1⟩⟩
        rw [s.canMove_turns plan]
        rcases t.eq_or_eq_other u with rfl | rfl
        · exact hblocked
        · exact Bool.eq_false_iff.mpr hother
  | @two s t =>
    unfold step at h
    dsimp only at h
    split at h
    · next s' hm => cases h; exact ⟨.two t, .inl ⟨t, hm⟩⟩
    · next hm =>
      cases h
      have hblocked := move_eq_none hm
      have hbefore : backlog plan ⟨s, [t, t.other]⟩ = 3 := by
        unfold backlog; dsimp only; rw [hblocked]; rfl
      rw [hbefore]
      unfold enqueue
      dsimp only
      rw [if_neg fun hand => hand.2 List.mem_cons_self]
      refine ⟨.one t.other, .inr ⟨rfl, ?_⟩⟩
      unfold backlog
      dsimp only
      split <;> simp

/-- Only an empty queue has no next step, and then no task can move. -/
theorem step_eq_none (hq : Queued plan c) (h : c.step plan = none) :
    c.backlog plan = 1 ∧ ∀ t, c.stream.move plan t = none := by
  cases hq with
  | none hn =>
    refine ⟨rfl, fun t => ?_⟩
    have hblocked := hn t
    unfold Stream.canMove at hblocked
    exact Option.isNone_iff_eq_none.mp (Option.isSome_eq_false_iff.mp hblocked)
  | one t =>
    unfold step at h
    dsimp only at h
    split at h <;> cases h
  | two t =>
    unfold step at h
    dsimp only at h
    split at h <;> cases h

theorem backlog_le (hq : Queued plan c) : c.backlog plan ≤ 3 := by
  cases hq with
  | none => exact Nat.le_succ_of_le (Nat.le_succ 1)
  | one t =>
    unfold backlog
    dsimp only
    split
    · exact Nat.zero_le 3
    · exact Nat.le_succ 2
  | two t =>
    unfold backlog
    dsimp only
    split
    · exact Nat.zero_le 3
    · exact Nat.le_refl 3

/-! ## Rehearsals -/

/-- The turns at one time are the steps up to the first at which no task has a turn left. -/
theorem settle_eq_after (m : Nat) (c : Schedule) (hend : (after plan m c).step plan = none)
    (hbefore : ∀ j < m, (after plan j c).step plan ≠ none) (steps : Nat) (hsteps : m ≤ steps) :
    c.settle plan steps = after plan m c := by
  induction m generalizing c steps with
  | zero =>
    have hnone : c.step plan = none := hend
    cases steps with
    | zero => rfl
    | succ steps => unfold settle; rw [hnone]; rfl
  | succ m ih =>
    obtain ⟨c', hstep⟩ := Option.ne_none_iff_exists'.mp (hbefore 0 (Nat.succ_pos m))
    have hnext : c.next plan = c' := next_of_step hstep
    cases steps with
    | zero => exact absurd hsteps (Nat.not_succ_le_zero m)
    | succ steps =>
      have hstep' : c.step plan = some c' := hstep
      unfold settle after
      rw [hstep', hnext]
      unfold after at hend
      rw [hnext] at hend
      refine ih c' hend (fun j hj => ?_) steps (Nat.le_of_succ_le_succ hsteps)
      have hj' := hbefore (j + 1) (Nat.succ_lt_succ hj)
      unfold after at hj'
      rw [hnext] at hj'
      exact hj'

theorem exists_first {n : Nat} (h : (after plan n c).step plan = none) :
    ∃ m ≤ n, (after plan m c).step plan = none ∧ ∀ j < m, (after plan j c).step plan ≠ none := by
  classical
  have hex : ∃ m, (after plan m c).step plan = none := ⟨n, h⟩
  exact ⟨Nat.find hex, Nat.find_min' hex h, Nat.find_spec hex, fun j hj => Nat.find_min hex hj⟩

/-- A schedule that has come to rest before its end goes on at a later time. -/
theorem exists_wake {n : Nat} (hstep : c.step plan = none) (hover : c.stream.isOver = false)
    (h : IsDone plan (after plan n c)) :
    ∃ t k, c.stream.wake? = some t ∧ n = k + 1 ∧
      after plan n c = after plan k (ofStream plan (c.stream.atTime t)) := by
  cases hwake : c.stream.wake? with
  | none =>
    have hnext := next_of_rest hstep hwake
    have hstay : ∀ n, after plan n c = c := by
      intro n
      induction n with
      | zero => rfl
      | succ n ih => unfold after; rw [hnext]; exact ih
    rw [hstay] at h
    cases hover.symm.trans h.2
  | some t =>
    cases n with
    | zero => cases hover.symm.trans h.2
    | succ k =>
      refine ⟨t, k, rfl, rfl, ?_⟩
      show after plan k (c.next plan) = _
      rw [next_of_wake hstep hover hwake]

end Schedule

namespace Rehearsal

open Schedule

variable {plan : Plan}

/-- Without actions, a run settles as the schedule of its stream. -/
theorem settle_eq (plan : Plan) (s : Stream) (hasStream hasHandle : Bool) (steps : Nat) :
    Run.settle plan steps ⟨s, hasStream, hasHandle, []⟩ =
      ⟨((ofStream plan s).settle plan steps).stream, hasStream, hasHandle, []⟩ := by
  have hagain : Schedule.enqueue plan ⟨s, (ofStream plan s).queue⟩ .driver = ofStream plan s := by
    rw [ofStream_eq]
    unfold Schedule.enqueue
    cases s.canMove plan .driver <;> simp
  unfold Run.settle Run.actAll
  dsimp only
  rw [hagain]

/-- A rehearsal with large enough bounds comes to the end that its schedule comes to. -/
theorem runUntil_of_after (plan : Plan) (n : Nat) (s : Stream)
    (h : IsDone plan (after plan n (ofStream plan s))) :
    ∃ bound, ∀ limit settleSteps steps, bound ≤ limit → bound ≤ settleSteps → bound ≤ steps →
      ∀ hasStream hasHandle,
        runUntil plan limit settleSteps steps ⟨s, hasStream, hasHandle, []⟩ =
          (⟨(after plan n (ofStream plan s)).stream, hasStream, hasHandle, []⟩, .over) := by
  induction n using Nat.strongRecOn generalizing s with
  | _ n ih =>
    obtain ⟨m, hm, hend, hbefore⟩ := exists_first h.1
    have hsettle := settle_eq_after m (ofStream plan s) hend hbefore
    have hsplit := after_add plan m (n - m) (ofStream plan s)
    rw [Nat.add_sub_cancel' hm] at hsplit
    cases hover : (after plan m (ofStream plan s)).stream.isOver with
    | true =>
      have hdone : IsDone plan (after plan m (ofStream plan s)) := ⟨hend, hover⟩
      rw [hdone.after_eq] at hsplit
      refine ⟨m + 1, fun limit settleSteps steps _ hsettles hsteps hasStream hasHandle => ?_⟩
      obtain ⟨steps, rfl⟩ : ∃ k, steps = k + 1 := ⟨steps - 1, by omega⟩
      unfold runUntil
      rw [settle_eq, hsettle settleSteps (by omega), hsplit]
      exact if_pos hover
    | false =>
      rw [hsplit] at h
      obtain ⟨t, k, hwake, hk, hafter⟩ := exists_wake hend hover h
      rw [hafter] at h
      obtain ⟨bound, hbound⟩ := ih k (by omega) _ h
      refine ⟨t + m + bound + 1, fun limit settleSteps steps hlimit hsettles hsteps hasStream
        hasHandle => ?_⟩
      obtain ⟨steps, rfl⟩ : ∃ k, steps = k + 1 := ⟨steps - 1, by omega⟩
      unfold runUntil
      rw [settle_eq, hsettle settleSteps (by omega), hsplit, hafter]
      dsimp only
      rw [hover]
      have hwake' : Run.wake? ⟨(after plan m (ofStream plan s)).stream, hasStream, hasHandle, []⟩ =
          some t := by
        unfold Run.wake?
        dsimp only
        rw [hwake]
      rw [hwake']
      dsimp only
      rw [if_neg Bool.false_ne_true, if_pos (by omega)]
      exact hbound limit settleSteps steps (by omega) (by omega) (by omega) hasStream hasHandle

end Rehearsal

end RemoteConsole
