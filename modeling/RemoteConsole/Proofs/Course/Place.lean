import RemoteConsole.Proofs.Client.Start
import RemoteConsole.Proofs.Course.Points
import RemoteConsole.Proofs.Stream.Parts

/-!
# Where a stream is

* `Duty.OnTime`: the times that a duty names are those of the feed.
* `Place c feed q s`: the state of a stream at the point `q`: its stage, the time, the bearing of
  its lifecycle, and the shapes of its poller, of either kind.
* `At c feed q s`: the stream is there and has done what a stream has done at that point.
* `Stream.rank`: a bound for the steps that a stream takes at one point.
-/

namespace RemoteConsole

namespace Duty

variable {server : Server} {feed : Feed} {p : Backoff.Policy} {i now : Nat} {duty duty' : Duty}
  {s s' : Scene}

/-- The times that the duty names are those of the fetch `i`. -/
def OnTime (feed : Feed) (p : Backoff.Policy) (i now : Nat) : Duty → Prop
  | .idle => False
  | .ordered d => now + d = feed.beginning p i
  | .delaying t => t = feed.beginning p i ∧ now ≤ t
  | .fetching due => due = feed.arrival p i ∧ now ≤ due
  | .answered => now = feed.arrival p i

/-- The point at which a stream is by its duty. -/
def point (i : Nat) : Duty → Point
  | .fetching _ => .underway i
  | .answered => .underway i
  | .idle => .booked i
  | .ordered _ => .booked i
  | .delaying _ => .booked i

/-- A step of a duty is on time again, and is recorded if and only if it leads to the next point. -/
theorem OnTime.step (h : OnTime feed p i now duty)
    (hs : Step server feed i now duty s duty' s') :
    OnTime feed p i now duty' ∧
      (duty'.point i = duty.point i ∧ s'.record = s.record ∨
        duty.point i = .booked i ∧ duty'.point i = .underway i ∧
          s'.record = s.record.fetch server.session (feed.beginning p i)) := by
  cases hs with
  | connect => exact ⟨h, .inl ⟨rfl, server.connect_record s⟩⟩
  | delay => exact ⟨⟨h, Nat.le_add_right _ _⟩, .inl ⟨rfl, rfl⟩⟩
  | fetch =>
    have hnow : now = feed.beginning p i := h
    refine ⟨⟨?_, Nat.le_add_right _ _⟩, .inr ⟨rfl, rfl, ?_⟩⟩
    · rw [hnow]; rfl
    · rw [← hnow]; exact server.begin_record now s
  | wake ht =>
    obtain ⟨rfl, hle⟩ := h
    have hnow : now = feed.beginning p i := Nat.le_antisymm hle ht
    refine ⟨⟨?_, Nat.le_add_right _ _⟩, .inr ⟨rfl, rfl, ?_⟩⟩
    · rw [hnow]; rfl
    · rw [← hnow]; exact server.begin_record now s
  | answer hd =>
    obtain ⟨rfl, hle⟩ := h
    exact ⟨Nat.le_antisymm hle hd, .inl ⟨rfl, rfl⟩⟩
  | reply => exact ⟨h, .inl ⟨rfl, rfl⟩⟩

end Duty

/-- The bearing of a stream that waits for the outcome `i`. -/
def Feed.bearing (feed : Feed) (p : Backoff.Policy) (i : Nat) : Bearing :=
  ⟨.polling, ⟨p, p.stepAfter (feed.streak i)⟩, .ofNat (feed.streak i), none, []⟩

/-- The state of a stream that is about to deliver what the outcome `i` brought. -/
structure Receiving (c : Client) (feed : Feed) (i : Nat) (s : Stream) : Prop where
  stage : s.stage = .executing (.deliver (feed.chunkAt i))
  isOpen : ∀ j < i, feed.ending? c.options.backoff j = none
  now : s.now = feed.arrival c.options.backoff i
  delivered : feed.isDelivered c.options.backoff i = true
  phase : s.lifecycle.phase = feed.phaseAt i
  reason : s.lifecycle.closeReason = feed.ending? c.options.backoff i
  milestones : s.lifecycle.bearing.milestones = []
  goesOn : feed.ending? c.options.backoff i = none →
    s.lifecycle.bearing = { feed.bearing c.options.backoff (i + 1) with phase := .delivering }
  isClosed : s.isClosed = false
  resting : Poller.Resting c.server feed (i + 1) s.poller s.scene

/-- The state of a stream at a point. -/
inductive Place (c : Client) (feed : Feed) : Point → Stream → Prop
  | ready {s : Stream} (hstage : s.stage = .starting) (hnow : s.now = 0)
      (hb : s.lifecycle.bearing = ⟨.idle, .ofPolicy c.options.backoff, 0, none, []⟩)
      (hclosed : s.isClosed = false) (hr : Poller.Resting c.server feed 0 s.poller s.scene) :
      Place c feed .ready s
  | ordered {i d : Nat} {s : Stream} (hstage : s.stage = .executing (.fetch d))
      (hopen : ∀ j < i, feed.ending? c.options.backoff j = none)
      (htime : s.now + d = feed.beginning c.options.backoff i)
      (hb : s.lifecycle.bearing = feed.bearing c.options.backoff i)
      (hclosed : s.isClosed = false) (hr : Poller.Resting c.server feed i s.poller s.scene) :
      Place c feed (.booked i) s
  | waiting {q : Point} {i : Nat} {duty : Duty} {poll : Poll} {s : Stream} (hq : q = duty.point i)
      (hstage : s.stage = .waiting poll)
      (hopen : ∀ j < i, feed.ending? c.options.backoff j = none)
      (htime : duty.OnTime feed c.options.backoff i s.now)
      (hb : s.lifecycle.bearing = feed.bearing c.options.backoff i)
      (hclosed : s.isClosed = false)
      (hp : Poller.Polling c.server feed i duty s.poller poll s.scene) :
      Place c feed q s
  | received {i : Nat} {s : Stream} (h : Receiving c feed i s) : Place c feed (.received i) s
  | leaving {i : Nat} {reason : CloseReason} {s : Stream}
      (hstage : s.stage = .executing (.close reason) ∨ s.stage = .leaving reason)
      (hopen : ∀ j < i, feed.ending? c.options.backoff j = none)
      (htime : s.now = feed.arrival c.options.backoff i)
      (hending : feed.ending? c.options.backoff i = some reason)
      (hr : Poller.Resting c.server feed (i + 1) s.poller s.scene) : Place c feed (.leaving i) s
  | finished {i : Nat} {reason : CloseReason} {s : Stream} (hstage : s.stage = .finished reason)
      (htime : s.now = feed.arrival c.options.backoff i)
      (hending : feed.ending? c.options.backoff i = some reason)
      (hp : s.poller = .direct ∨ s.poller = .stopped) : Place c feed (.finished i) s

/-- The stream is at a point and has done what there is to do before it; nobody asks for a close. -/
structure At (c : Client) (feed : Feed) (q : Point) (s : Stream) : Prop where
  place : Place c feed q s
  trace : s.trace = q.trace c feed
  closeWanted : s.closeWanted = false

/-- A bound for the steps that a stage takes by itself. -/
def Stage.rank : Stage → Nat
  | .executing (.fetch _) => 20
  | .executing (.close _) => 1
  | .waiting poll => poll.rank
  | .starting => 0
  | .executing (.deliver _) => 0
  | .executing .wait => 0
  | .leaving _ => 0
  | .finished _ => 0
  | .crashed => 0

namespace Stream

/-- A bound for the steps at one point: those of the driver, the worker, and a health deadline. -/
def rank (s : Stream) : Nat :=
  2 * (s.stage.rank + s.poller.rank) + if s.lifecycle.health.deadline.isSome then 1 else 0

/-! ## The trace -/

variable {s : Stream}

theorem milestones_publish (s : Stream) :
    s.publish.milestones =
      s.milestones ++ s.lifecycle.bearing.milestones.map fun e => (s.now, e) := by
  unfold milestones publish Lifecycle.bearing Event.milestones
  simp only [List.filter_append, List.map_append, List.filter_map, List.map_map]
  rfl

theorem trace_proceed (s : Stream) (l : Lifecycle) (command : Command) :
    (s.proceed (l, command)).trace =
      ⟨s.scene.record, s.milestones ++ l.bearing.milestones.map fun e => (s.now, e), none⟩ := by
  unfold trace proceed
  rw [milestones_publish]
  rfl

/-- A health deadline is no milestone. -/
theorem fireHealth_trace (h : s.lifecycle.bearing.milestones = []) :
    s.fireHealth.trace = s.trace := by
  have hbearing := s.lifecycle.bearing_fireHealth s.now
  unfold fireHealth
  dsimp only
  split
  · unfold trace
    rw [milestones_publish]
    dsimp only
    rw [hbearing, h]
    exact congrArg (fun events => Trace.mk _ events _) (List.append_nil _)
  · rfl

theorem fireHealth_bearing (h : s.lifecycle.bearing.milestones = []) :
    s.fireHealth.lifecycle.bearing = s.lifecycle.bearing := by
  have hbearing := s.lifecycle.bearing_fireHealth s.now
  have hdrained : s.lifecycle.bearing.drained = s.lifecycle.bearing := by
    unfold Bearing.drained
    rw [← h]
  unfold fireHealth
  dsimp only
  split
  · show (s.lifecycle.fireHealth s.now).1.drained.bearing = _
    rw [Lifecycle.bearing_drained, hbearing, hdrained]
  · exact hbearing

end Stream

end RemoteConsole
