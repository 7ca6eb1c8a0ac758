import Mathlib.Logic.Relation
import RemoteConsole.Rehearsal.Run

/-!
# The steps of a stream

* `Stream.Step plan`: the driver or the worker takes a step, a turn ends, time passes, or someone
  asks for a close, in any order.
* `Stream.Reach plan`: what these steps lead to. `reach_settle` and `reach_runUntil` say that a
  schedule and a rehearsal go nowhere else.
* `Stream.DriverMove plan`: the steps of the driver, one constructor for each kind.
  `DriverMove.of_move` says that these are the steps of `Stream.moveDriver`, `DriverMove.eq` that
  only one of them can be taken.
-/

namespace RemoteConsole

namespace Stream

/-- The steps of a stream, in any order. -/
inductive Step (plan : Plan) : Stream → Stream → Prop
  | driver {s s' : Stream} (h : s.moveDriver plan = some s') : Step plan s s'
  | worker {s s' : Stream} (h : s.moveWorker plan = some s') : Step plan s s'
  | turn {s : Stream} : Step plan s { s with turns := s.turns + 1 }
  | time {s : Stream} (t : Nat) : Step plan s (s.atTime t)
  | close {s : Stream} : Step plan s { s with closeWanted := true }

/-- The streams that the steps lead to. -/
abbrev Reach (plan : Plan) : Stream → Stream → Prop := Relation.ReflTransGen (Step plan)

/-- The steps of a driver. While it waits for a poll, the wish to close goes first, then the poll,
then the health signal. -/
inductive DriverMove (plan : Plan) (s : Stream) : Stream → Prop
  | start (h : s.stage = .starting) : DriverMove plan s (s.proceed (s.lifecycle.start s.now))
  | fetch {delay : Nat} (h : s.stage = .executing (.fetch delay)) :
      DriverMove plan s { s with stage := .waiting (.fresh delay) }
  | deliver {chunk : Option Chunk} (h : s.stage = .executing (.deliver chunk)) :
      DriverMove plan s (s.deliver plan chunk)
  | close {reason : CloseReason} (h : s.stage = .executing (.close reason)) :
      DriverMove plan s { s with stage := .leaving reason }
  | wait (h : s.stage = .executing .wait) : DriverMove plan s (s.proceed s.lifecycle.requestClose)
  | requestClose {poll : Poll} (h : s.stage = .waiting poll) (hc : s.closeWanted = true) :
      DriverMove plan s (s.proceed s.lifecycle.requestClose)
  | poll {poll : Poll} {p : Poller.State} (h : s.stage = .waiting poll)
      (hc : s.closeWanted = false)
      (hm : Poller.move plan.server plan.workerCapacity s.now (s.poller, poll, s.scene) =
        .moved p) :
      DriverMove plan s (s.withPoll p)
  | consume {poll : Poll} {o : Outcome} {p : Poller.State} (h : s.stage = .waiting poll)
      (hc : s.closeWanted = false)
      (hm : Poller.move plan.server plan.workerCapacity s.now (s.poller, poll, s.scene) =
        .ready o p) :
      DriverMove plan s ((s.withPoll p).consume o)
  | crash {poll : Poll} {p : Poller.State} (h : s.stage = .waiting poll)
      (hc : s.closeWanted = false)
      (hm : Poller.move plan.server plan.workerCapacity s.now (s.poller, poll, s.scene) =
        .crashed p) :
      DriverMove plan s (s.withPoll p).crash
  | health {poll : Poll} (h : s.stage = .waiting poll) (hc : s.closeWanted = false)
      (hm : Poller.move plan.server plan.workerCapacity s.now (s.poller, poll, s.scene) = .blocked)
      (hd : s.lifecycle.health.isDue s.now = true) :
      DriverMove plan s s.fireHealth
  | leave {reason : CloseReason} (h : s.stage = .leaving reason) :
      DriverMove plan s { s with poller := s.poller.stop, stage := .finished reason }

variable {plan : Plan} {s s' : Stream}

theorem DriverMove.of_move (h : s.moveDriver plan = some s') : DriverMove plan s s' := by
  unfold moveDriver at h
  split at h
  · next hs => cases h; exact .start hs
  · next command hs =>
    cases h
    cases command with
    | fetch delay => exact .fetch hs
    | deliver chunk => exact .deliver hs
    | close reason => exact .close hs
    | wait => exact .wait hs
  · next poll hs =>
    unfold await at h
    split at h
    · next hc => cases h; exact .requestClose hs hc
    · next hc =>
      have hc' : s.closeWanted = false := Bool.eq_false_iff.mpr hc
      split at h
      · next p hm => cases h; exact .poll hs hc' hm
      · next o p hm => cases h; exact .consume hs hc' hm
      · next p hm => cases h; exact .crash hs hc' hm
      · next hm =>
        split at h
        · next hd => cases h; exact .health hs hc' hm hd
        · cases h
  · next reason hs => cases h; exact .leave hs
  · cases h
  · cases h

theorem DriverMove.move_eq (h : DriverMove plan s s') : s.moveDriver plan = some s' := by
  cases h with
  | start hs => simp only [moveDriver, hs]
  | fetch hs => simp only [moveDriver, hs, execute]
  | deliver hs => simp only [moveDriver, hs, execute]
  | close hs => simp only [moveDriver, hs, execute]
  | wait hs => simp only [moveDriver, hs, execute]
  | requestClose hs hc => simp only [moveDriver, hs, await, hc, ↓reduceIte]
  | poll hs hc hm => simp only [moveDriver, hs, await, hc, hm, Bool.false_eq_true, ↓reduceIte]
  | consume hs hc hm => simp only [moveDriver, hs, await, hc, hm, Bool.false_eq_true, ↓reduceIte]
  | crash hs hc hm => simp only [moveDriver, hs, await, hc, hm, Bool.false_eq_true, ↓reduceIte]
  | health hs hc hm hd =>
    simp only [moveDriver, hs, await, hc, hm, hd, Bool.false_eq_true, ↓reduceIte]
  | leave hs => simp only [moveDriver, hs]

/-- The driver takes no other step than the one it can take. -/
theorem DriverMove.eq {s₁ : Stream} (h : DriverMove plan s s₁) (hm : s.moveDriver plan = some s') :
    s' = s₁ :=
  Option.some.inj (hm.symm.trans h.move_eq)

theorem DriverMove.ne_none (h : DriverMove plan s s') : s.moveDriver plan ≠ none := by
  rw [h.move_eq]
  exact Option.some_ne_none s'

/-- When the poll is held up, only a health deadline is left to the driver. -/
theorem moveDriver_blocked {poll : Poll} (h : s.stage = .waiting poll) (hc : s.closeWanted = false)
    (hm : Poller.move plan.server plan.workerCapacity s.now (s.poller, poll, s.scene) = .blocked) :
    s.moveDriver plan = if s.lifecycle.health.isDue s.now then some s.fireHealth else none := by
  simp only [moveDriver, h, await, hc, hm, Bool.false_eq_true, ↓reduceIte]

/-- A driver that waits for a poll is only held up by a poll that is, before its health deadline. -/
theorem moveDriver_eq_none {poll : Poll} (h : s.stage = .waiting poll) (hc : s.closeWanted = false)
    (hnone : s.moveDriver plan = none) :
    Poller.move plan.server plan.workerCapacity s.now (s.poller, poll, s.scene) = .blocked ∧
      s.lifecycle.health.isDue s.now = false := by
  cases hm : Poller.move plan.server plan.workerCapacity s.now (s.poller, poll, s.scene) with
  | moved p => exact absurd hnone (DriverMove.poll h hc hm).ne_none
  | ready o p => exact absurd hnone (DriverMove.consume h hc hm).ne_none
  | crashed p => exact absurd hnone (DriverMove.crash h hc hm).ne_none
  | blocked =>
    refine ⟨rfl, Bool.eq_false_iff.mpr fun hd => ?_⟩
    exact absurd hnone (DriverMove.health h hc hm hd).ne_none

/-- A step of the worker touches the poller and the scene. -/
theorem moveWorker_eq (h : s.moveWorker plan = some s') :
    ∃ poller scene, s.poller.moveWorker plan.server s.now s.scene = some (poller, scene) ∧
      s' = { s with poller := poller, scene := scene } := by
  obtain ⟨⟨poller, scene⟩, hm, heq⟩ := Option.map_eq_some_iff.mp h
  exact ⟨poller, scene, hm, heq.symm⟩

/-- The step of a task is a step of the stream. -/
theorem Step.of_move {t : Task} (h : s.move plan t = some s') : Step plan s s' := by
  cases t with
  | driver => exact .driver h
  | worker => exact .worker h

end Stream

/-! ## Schedules and rehearsals -/

namespace Schedule

variable {plan : Plan} {c c' : Schedule}

theorem enqueue_stream (c : Schedule) (t : Task) : (c.enqueue plan t).stream = c.stream := by
  unfold enqueue; split <;> rfl

theorem ofStream_stream (plan : Plan) (s : Stream) : (ofStream plan s).stream = s :=
  (enqueue_stream _ _).trans (enqueue_stream _ _)

theorem step_reach (h : c.step plan = some c') : Stream.Step plan c.stream c'.stream := by
  unfold step at h
  split at h
  · cases h
  · split at h
    · next hm => cases h; exact .of_move hm
    · cases h
      dsimp only
      rw [enqueue_stream]
      exact .turn

theorem reach_settle (plan : Plan) (steps : Nat) (c : Schedule) :
    Stream.Reach plan c.stream (c.settle plan steps).stream := by
  induction steps generalizing c with
  | zero => exact .refl
  | succ steps ih =>
    unfold settle
    split
    · exact .refl
    · next c' hstep => exact .head (step_reach hstep) (ih c')

end Schedule

namespace Rehearsal

variable {plan : Plan}

theorem reach_act (r : Run) (a : Action) : Stream.Reach plan r.stream (r.act a).stream := by
  unfold Run.act
  cases a <;> dsimp only <;> split <;> first | exact .single .close | exact .refl

theorem reach_actAll (actions : List (Nat × Action)) (r : Run) :
    Stream.Reach plan r.stream (Run.actAll actions r).stream := by
  induction actions generalizing r with
  | nil => exact .refl
  | cons action rest ih =>
    unfold Run.actAll
    split
    · exact (reach_act r action.2).trans (ih _)
    · exact .refl

theorem reach_runSettle (plan : Plan) (steps : Nat) (r : Run) :
    Stream.Reach plan r.stream (r.settle plan steps).stream := by
  refine (reach_actAll r.actions r).trans ?_
  have h := Schedule.reach_settle plan steps
    (({ Schedule.ofStream plan r.stream with
      stream := (Run.actAll r.actions r).stream }).enqueue plan .driver)
  rw [Schedule.enqueue_stream] at h
  exact h

/-- A rehearsal takes a stream only where its steps lead, with closes at any times. -/
theorem reach_runUntil (plan : Plan) (limit settleSteps steps : Nat) (r : Run) :
    Stream.Reach plan r.stream (runUntil plan limit settleSteps steps r).1.stream := by
  induction steps generalizing r with
  | zero => exact .refl
  | succ steps ih =>
    have hsettle := reach_runSettle plan settleSteps r
    unfold runUntil
    dsimp only
    split
    · exact hsettle
    · split
      · exact hsettle.tail (.time limit)
      · next time hwake =>
        split
        · exact (hsettle.tail (.time time)).trans (ih ((r.settle plan settleSteps).atTime time))
        · exact hsettle.tail (.time limit)

end Rehearsal

end RemoteConsole
