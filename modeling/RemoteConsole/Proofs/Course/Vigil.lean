import RemoteConsole.Proofs.Course.Alarms
import RemoteConsole.Proofs.Course.Stage
import RemoteConsole.Proofs.Course.Step

/-!
# The health signal on the course of a stream

* `Vigil c feed isOffloaded q s`: what the health signal of a stream is about at the point `q`, and
  which changes of it were published.
* `Vigil.driver`, `Vigil.worker`, `Vigil.time`: the steps of a stream keep to it.

A worker's reply is taken in another turn of the driver than the one in which it waits for it: when
there is a reply, a deadline that has come was seen.
-/

namespace RemoteConsole

variable {c : Client} {feed : Feed} {isOffloaded : Bool} {q q' : Point} {s s' : Stream} {i : Nat}

/-- The lifecycle has nothing to publish, and the signal is of interest. -/
structure Tuned (c : Client) (isOffloaded : Bool) (s : Stream) : Prop where
  quiet : s.lifecycle.events = []
  arming : s.lifecycle.arming = c.options.health.arming
  isEnabled : s.lifecycle.health.isEnabled = true
  debounce : s.lifecycle.health.debounce = c.options.health.debounceMs.toNat
  mode : s.poller.isOffloaded = isOffloaded

theorem Tuned.congr (h : Tuned c isOffloaded s) (hl : s'.lifecycle = s.lifecycle)
    (hmode : s'.poller.isOffloaded = s.poller.isOffloaded) : Tuned c isOffloaded s' := by
  obtain ⟨hquiet, harming, henabled, hdebounce, hm⟩ := h
  rw [← hl] at hquiet harming henabled hdebounce
  exact ⟨hquiet, harming, henabled, hdebounce, hmode.trans hm⟩

/-- The signal while the outcome `i` is waited for: it is down, and its deadline lies ahead; or it
went up at the deadline, which was before the outcome. -/
inductive Signal (c : Client) (feed : Feed) (isOffloaded : Bool) (i : Nat) (s : Stream) : Prop
  | down (h : s.lifecycle.health.isUnhealthy = false)
      (hdeadline : s.lifecycle.health.deadline = feed.deadline? c.options i)
      (hahead : ∀ d, feed.deadline? c.options i = some d →
        s.now ≤ d ∧ (s.poller.hasReply = true → s.now < d))
      (halarms : s.alarms = feed.alarms c.options isOffloaded i)
  | up {d : Nat} (h : s.lifecycle.health.isUnhealthy = true)
      (hdeadline : feed.deadline? c.options i = some d)
      (hrings : Rings isOffloaded d (feed.arrival c.options.backoff i))
      (halarms : s.alarms = feed.alarms c.options isOffloaded i ++ [(d, true)])

/-- A stream waits for the outcome `i`. -/
structure Watching (c : Client) (feed : Feed) (isOffloaded : Bool) (i : Nat) (s : Stream) :
    Prop where
  tuned : Tuned c isOffloaded s
  signal : Signal c feed isOffloaded i s

/-- The signal after the outcome `i`: it is down after a success, and goes down at the end. -/
structure Settled (c : Client) (feed : Feed) (isOffloaded : Bool) (i : Nat) (s : Stream) :
    Prop where
  alarms : s.alarms ++ (if s.lifecycle.health.isUnhealthy then [(s.now, false)] else []) =
    feed.alarms c.options isOffloaded (i + 1)
  calm : ∀ chunk, feed.answer i = .ok chunk →
    s.lifecycle.health.isUnhealthy = false ∧ s.lifecycle.health.deadline = none

/-- What the health signal is about at a point. -/
def Vigil (c : Client) (feed : Feed) (isOffloaded : Bool) : Point → Stream → Prop
  | .ready, s => Tuned c isOffloaded s ∧ s.lifecycle.health.isUnhealthy = false ∧
      s.lifecycle.health.deadline = none ∧ s.alarms = []
  | .booked i, s => Watching c feed isOffloaded i s
  | .underway i, s => Watching c feed isOffloaded i s
  | .received i, s => Tuned c isOffloaded s ∧ Settled c feed isOffloaded i s
  | .leaving i, s => s.alarms = feed.alarms c.options isOffloaded (i + 1)
  | .finished i, s => s.alarms = feed.alarms c.options isOffloaded (i + 1)

theorem Vigil.watching_iff {duty : Duty} :
    Vigil c feed isOffloaded (duty.point i) s ↔ Watching c feed isOffloaded i s := by
  cases duty <;> exact Iff.rfl

theorem Feed.arrival_le_succ (p : Backoff.Policy) (i : Nat) :
    feed.arrival p i ≤ feed.arrival p (i + 1) :=
  Nat.le_trans (Nat.le_add_right _ _) (Nat.le_add_right _ _)

/-! ## The signal by itself -/

/-- A signal that the outcome finds down never went up, and one that it finds up goes down. -/
theorem Signal.settle (h : Signal c feed isOffloaded i s)
    (hnow : s.now = feed.arrival c.options.backoff i)
    (hdelivered : feed.isDelivered c.options.backoff i = true)
    (hreply : isOffloaded = true → s.poller.hasReply = true) :
    s.alarms ++ (if s.lifecycle.health.isUnhealthy then [(s.now, false)] else []) =
      feed.alarms c.options isOffloaded (i + 1) := by
  rw [Feed.alarms_succ]
  cases h with
  | down hdown hdeadline hahead halarms =>
    have hquiet : feed.alarmsAt c.options isOffloaded i = [] := by
      refine Feed.alarmsAt_of_not_rings fun d hd hrings => ?_
      obtain ⟨hle, hlt⟩ := hahead d hd
      rw [hnow] at hle hlt
      rcases hrings with hearly | ⟨ho, hsame⟩
      · exact absurd hearly (Nat.not_lt.mpr hle)
      · -- A worker's outcome was a reply, and a reply is only there before the deadline.
        exact absurd hsame (Nat.ne_of_gt (hlt (hreply ho)))
    rw [hdown, halarms, hquiet]
    rfl
  | up hup hdeadline hrings halarms =>
    rw [hup, halarms, Feed.alarmsAt_of_rings hdelivered hdeadline hrings, ← hnow]
    exact List.append_assoc _ _ _

/-- After a failure that is retried the attempt goes on pending, or is pending now. -/
theorem Signal.retry (h : Signal c feed isOffloaded i s) {e : FetchError}
    (ha : feed.answer i = .error e) (hnow : s.now = feed.arrival c.options.backoff i)
    (hdelivered : feed.isDelivered c.options.backoff i = false)
    (hsignal : s'.lifecycle.health.isUnhealthy = s.lifecycle.health.isUnhealthy)
    (hdeadline : s'.lifecycle.health.deadline = s.lifecycle.health.deadline.or
      (some (s.now + c.options.health.debounceMs.toNat)))
    (hnow' : s'.now = s.now) (hreply : s'.poller.hasReply = false)
    (halarms : s'.alarms = s.alarms) : Signal c feed isOffloaded (i + 1) s' := by
  have hsame : feed.alarms c.options isOffloaded (i + 1) = feed.alarms c.options isOffloaded i := by
    rw [Feed.alarms_succ, Feed.alarmsAt_of_not_delivered hdelivered, List.append_nil]
  have hnext := Feed.deadline?_error (o := c.options) ha
  rw [← hnow] at hnext
  cases h with
  | down hdown hd hahead hal =>
    refine .down (hsignal.trans hdown) ?_ ?_ (halarms.trans (hal.trans hsame.symm))
    · rw [hdeadline, hnext, hd]
    · intro d hd'
      rw [hnow']
      refine ⟨?_, fun hr => by rw [hreply] at hr; cases hr⟩
      rw [hnext] at hd'
      cases hi : feed.deadline? c.options i with
      | none =>
        rw [hi] at hd'
        cases hd'
        exact Nat.le_add_right _ _
      | some d₀ =>
        rw [hi] at hd'
        cases hd'
        exact (hahead d hi).1
  | up hup hd hrings hal =>
    refine .up (hsignal.trans hup) ?_ (hrings.mono (Feed.arrival_le_succ _ i)) ?_
    · rw [hnext, hd]
      rfl
    · rw [halarms, hal, hsame]

/-- What does not touch the lifecycle or what was published. -/
theorem Watching.congr (h : Watching c feed isOffloaded i s) (hl : s'.lifecycle = s.lifecycle)
    (halarms : s'.alarms = s.alarms) (hmode : s'.poller.isOffloaded = s.poller.isOffloaded)
    (hahead : ∀ d, s.lifecycle.health.deadline = some d →
      s.now ≤ d ∧ (s.poller.hasReply = true → s.now < d) →
      s'.now ≤ d ∧ (s'.poller.hasReply = true → s'.now < d)) :
    Watching c feed isOffloaded i s' := by
  refine ⟨h.tuned.congr hl hmode, ?_⟩
  cases h.signal with
  | down hdown hdeadline hbefore hal =>
    refine .down (hl ▸ hdown) (hl ▸ hdeadline) ?_ (halarms.trans hal)
    exact fun d hd => hahead d (hdeadline.trans hd) (hbefore d hd)
  | up hup hdeadline hrings hal => exact .up (hl ▸ hup) hdeadline hrings (halarms.trans hal)

/-- A fetch begins after the start or a success. -/
theorem Tuned.begin {source : Phase} {command : Command} (h : Tuned c isOffloaded s)
    (hdown : s.lifecycle.health.isUnhealthy = false)
    (hnone : s.lifecycle.health.deadline = none)
    (halarms : s.alarms = feed.alarms c.options isOffloaded i)
    (hdeadline : feed.deadline? c.options i = c.options.freshDeadline? s.now)
    (hreply : s.poller.hasReply = false) :
    Watching c feed isOffloaded i (s.proceed
      ({ s.lifecycle with
          phase := .polling
          watched := s.lifecycle.watched.send .polling
          health := s.lifecycle.armed s.now
          events := s.lifecycle.events ++ [.phaseChanged source .polling] },
        command)) := by
  have harmed : s.lifecycle.armed s.now =
      { s.lifecycle.health with deadline := c.options.freshDeadline? s.now } := by
    unfold Lifecycle.armed Options.freshDeadline?
    rw [h.arming]
    split
    · rw [Health.Monitor.markPending_eq _ h.isEnabled, hnone, ← h.debounce]
      rfl
    · rw [← hnone]
  rw [harmed]
  refine ⟨⟨rfl, h.arming, h.isEnabled, h.debounce, h.mode⟩, .down hdown hdeadline.symm ?_ ?_⟩
  · intro d hd
    rw [hdeadline] at hd
    refine ⟨?_, fun hr => by cases hreply.symm.trans hr⟩
    show s.now ≤ d
    unfold Options.freshDeadline? at hd
    split at hd <;> cases hd
    exact Nat.le_add_right _ _
  · rw [Stream.alarms_proceed, halarms, h.quiet]
    exact List.append_nil _

/-! ## A driver that waits -/

theorem Duty.OnTime.le_arrival {p : Backoff.Policy} {duty : Duty} {now : Nat}
    (h : duty.OnTime feed p i now) : now ≤ feed.arrival p i := by
  cases duty with
  | idle => cases h
  | ordered d => exact Nat.le_trans (Nat.le.intro h) (Nat.le_add_right _ _)
  | delaying t => exact Nat.le_trans (h.1 ▸ h.2) (Nat.le_add_right _ _)
  | fetching due => exact h.1 ▸ h.2
  | answered => exact Nat.le_of_eq h

theorem Duty.OnTime.wake_le {p : Backoff.Policy} {duty : Duty} {now t : Nat}
    (h : duty.OnTime feed p i now) (hwake : duty.wake? = some t) : t ≤ feed.arrival p i := by
  cases duty with
  | delaying t =>
    cases hwake
    exact Nat.le_trans (Nat.le_of_eq h.1) (Nat.le_add_right _ _)
  | fetching due =>
    cases hwake
    exact Nat.le_of_eq h.1
  | idle | ordered | answered => cases hwake

theorem At.milestones_eq {duty : Duty} (h : At c feed (duty.point i) s) :
    s.milestones = feed.log c.options.backoff i := by
  have hevents : s.milestones = ((duty.point i).trace c feed).events := congrArg (·.events) h.trace
  rw [hevents]
  cases duty <;> rfl

/-- A deadline that comes while the poll is held up is before the outcome. -/
theorem Poller.Polling.rings (hc : c.Served feed) {duty : Duty} {p : Poller} {poll : Poll}
    {scene : Scene} {now : Nat} (hp : Polling c.server feed i duty p poll scene)
    (htime : duty.OnTime feed c.options.backoff i now)
    (hm : move c.plan.server c.plan.workerCapacity now (p, poll, scene) = .blocked) :
    Rings p.isOffloaded now (feed.arrival c.options.backoff i) := by
  cases ho : p.isOffloaded with
  | true =>
    rcases Nat.lt_or_eq_of_le htime.le_arrival with hlt | heq
    · exact .inl hlt
    · exact .inr ⟨rfl, heq⟩
  | false =>
    rcases hp.move_cases now hc.call hc.capacity_pos hc.orders with
      ⟨r, hr, -⟩ | ⟨_, _, _, hr, -⟩ | ⟨-, hbusy | ⟨t, hlt, hwake, -⟩⟩
    · cases hm.symm.trans hr
    · cases hm.symm.trans hr
    · cases p with
      | direct | fallback => cases hbusy
      | pending | running | stopped => cases ho
    · exact .inl (Nat.lt_of_lt_of_le hlt (htime.wake_le hwake))

/-- A driver that has taken an outcome does not wait. -/
theorem Stream.consume_stage {o : Outcome} {poll : Poll}
    (h : (s.consume o).stage = .waiting poll) : False := by
  rcases s.consume_cases o with ⟨l, command, -, heq⟩ | ⟨l, fault, -, heq⟩ <;> rw [heq] at h <;>
    cases h

theorem Place.stage_underway (h : Place c feed (.underway i) s) :
    ∃ poll, s.stage = .waiting poll := by
  cases h with
  | waiting _ hstage => exact ⟨_, hstage⟩

/-- A stream that waits has the log of the outcome for which it waits. -/
theorem Watching.vigil (h : Watching c feed isOffloaded i s) {poll : Poll}
    (hstage : s.stage = .waiting poll) (hevents : s.milestones = feed.log c.options.backoff i)
    (hat : At c feed q s) : Vigil c feed isOffloaded q s := by
  have hq := hat.place.isAt
  have htrace : s.milestones = (q.trace c feed).events := congrArg (·.events) hat.trace
  rw [hstage] at hq
  obtain ⟨j, rfl | rfl⟩ := hq <;> obtain rfl := Feed.log_injective (hevents.symm.trans htrace)
  · exact h
  · exact h

/-- The signal goes up, unless it is up already. -/
theorem Watching.fireHealth (h : Watching c feed isOffloaded i s)
    (hdue : s.lifecycle.health.isDue s.now = true)
    (hrings : Rings isOffloaded s.now (feed.arrival c.options.backoff i)) :
    Watching c feed isOffloaded i s.fireHealth := by
  obtain ⟨htuned, hsignal⟩ := h
  have hup := Health.Monitor.isUnhealthy_set { s.lifecycle.health with deadline := none } true
  rw [Stream.fireHealth_quiet htuned.quiet,
    Health.Monitor.fire_eq _ htuned.isEnabled hdue]
  refine ⟨⟨htuned.quiet, htuned.arming, htuned.isEnabled, htuned.debounce, htuned.mode⟩, ?_⟩
  cases hsignal with
  | down hdown hdeadline hahead halarms =>
    obtain ⟨d, hd⟩ := Option.isSome_iff_exists.mp (Stream.deadline_of_isDue hdue)
    have hd' := hdeadline.symm.trans hd
    have hnow : s.now = d :=
      Nat.le_antisymm (hahead d hd').1 (Health.Monitor.le_of_due _ hdue hd)
    refine .up hup hd' (hnow ▸ hrings) ?_
    rw [← halarms, ← hnow, hdown]
    exact List.filterMap_append
  | up h hdeadline hbefore halarms =>
    refine .up hup hdeadline hbefore ?_
    rw [← halarms, h]
    exact congrArg (List.filterMap _) (List.append_nil s.published)

/-- The outcome is taken. -/
theorem Watching.consume (h : Watching c feed isOffloaded i s) {r : Poller.State}
    (hphase : s.lifecycle.phase = .polling) (hnow : s.now = feed.arrival c.options.backoff i)
    (hreply : isOffloaded = true → s.poller.hasReply = true)
    (hmode : r.1.isOffloaded = s.poller.isOffloaded) (hrest : r.1.hasReply = false)
    (hq : (Point.underway i).next feed c.options.backoff = some q)
    (hat : At c feed q ((s.withPoll r).consume (feed.answer i))) :
    Vigil c feed isOffloaded q ((s.withPoll r).consume (feed.answer i)) := by
  obtain ⟨htuned, hsignal⟩ := h
  have hplace := hat.place.isAt
  generalize ha : feed.answer i = o at hplace hat
  rcases (s.withPoll r).consume_cases o with ⟨l, command, hr, heq⟩ | ⟨l, fault, -, heq⟩
  · rw [heq] at hplace ⊢
    -- The command tells to which point the outcome led.
    cases hr with
    | ignored hi =>
      have hheard : (Input.receive o s.now).isHeard s.lifecycle.phase = true := by
        rw [hphase]; rfl
      cases hheard.symm.trans hi
    | @brought chunk =>
      obtain ⟨hdelivered, rfl⟩ := Point.next_deliver hq hplace
      have hcalm := s.lifecycle.health.isUnhealthy_markHealthy
      have hevents : Event.alarms s.now
          (s.lifecycle.events ++ [.phaseChanged .polling .delivering] ++ s.lifecycle.calmed) =
          if s.lifecycle.health.isUnhealthy then [(s.now, false)] else [] := by
        rw [htuned.quiet]
        exact s.lifecycle.alarms_calmed s.now
      refine ⟨⟨rfl, htuned.arming, htuned.isEnabled, htuned.debounce, hmode.trans htuned.mode⟩,
        ?_, fun _ _ => ⟨hcalm, rfl⟩⟩
      rw [← hsignal.settle hnow hdelivered hreply, Stream.alarms_proceed, ← hevents]
      have hdown : (if s.lifecycle.health.markHealthy.isUnhealthy then [(s.now, false)] else []) =
        [] := by rw [hcalm]; rfl
      exact (congrArg (_ ++ ·) hdown).trans (List.append_nil _)
    | failedLast =>
      obtain ⟨hdelivered, rfl⟩ := Point.next_deliver hq hplace
      refine ⟨⟨rfl, htuned.arming, htuned.isEnabled, htuned.debounce, hmode.trans htuned.mode⟩,
        ?_, fun chunk hchunk => by cases hchunk.symm.trans ha⟩
      rw [← hsignal.settle hnow hdelivered hreply, Stream.alarms_proceed]
      dsimp only
      rw [show (s.withPoll r).lifecycle.events = [] from htuned.quiet]
      exact congrArg (· ++ _) (List.append_nil s.alarms)
    | retried =>
      obtain ⟨hdelivered, rfl⟩ := Point.next_retry hq hplace
      have hpending := s.lifecycle.health.markPending_eq htuned.isEnabled s.now
      refine ⟨⟨rfl, htuned.arming, ?_, ?_, hmode.trans htuned.mode⟩,
        hsignal.retry ha hnow hdelivered ?_ ?_ rfl hrest ?_⟩
      · exact (congrArg (·.isEnabled) hpending).trans htuned.isEnabled
      · exact (congrArg (·.debounce) hpending).trans htuned.debounce
      · exact congrArg (·.isUnhealthy) hpending
      · rw [← htuned.debounce]
        exact congrArg (·.deadline) hpending
      · rw [Stream.alarms_proceed]
        dsimp only
        rw [show (s.withPoll r).lifecycle.events = [] from htuned.quiet]
        exact List.append_nil s.alarms
  · rw [heq] at hplace
    cases hplace

/-- A driver that waits for a poll keeps to it. -/
theorem Vigil.driver_waiting (hc : c.Served feed) {duty : Duty} {poll : Poll}
    (hv : Watching c feed isOffloaded i s) (hhere : At c feed (duty.point i) s)
    (hstage : s.stage = .waiting poll) (htime : duty.OnTime feed c.options.backoff i s.now)
    (hb : s.lifecycle.bearing = feed.bearing c.options.backoff i)
    (hp : Poller.Polling c.server feed i duty s.poller poll s.scene)
    (hm : s.moveDriver c.plan = some s')
    (hq : q = duty.point i ∨ (duty.point i).next feed c.options.backoff = some q)
    (hat : At c feed q s') : Vigil c feed isOffloaded q s' := by
  have hevents := hhere.milestones_eq
  have hcw := hhere.closeWanted
  rcases hp.move_cases s.now hc.call hc.capacity_pos hc.orders with
    ⟨r, hr, -⟩ | ⟨p', poll', scene, hr, hrest, -, hdue⟩ | ⟨hr, -⟩
  · obtain rfl := Stream.DriverMove.eq (.poll hstage hcw hr) hm
    obtain ⟨hreply, hmode⟩ := (Poller.Move.of_move hr nofun).of_moved hc.capacity_pos
    have hstays : Watching c feed isOffloaded i (s.withPoll r) :=
      hv.congr rfl rfl hmode fun d _ hd => ⟨hd.1, fun h => hd.2 (hreply h)⟩
    exact hstays.vigil rfl hevents hat
  · obtain rfl := Stream.DriverMove.eq (.consume hstage hcw hr) hm
    have hnow : s.now = feed.arrival c.options.backoff i := by
      rcases hdue with ⟨due, rfl, hdue⟩ | rfl
      · exact Nat.le_antisymm htime.le_arrival (htime.1 ▸ hdue)
      · exact htime
    have hpoint : duty.point i = .underway i := by
      rcases hdue with ⟨due, rfl, -⟩ | rfl <;> rfl
    have hmode := (Poller.Move.of_move hr nofun).isOffloaded_of_ready
    rw [hpoint] at hq
    rcases hq with rfl | hq
    · obtain ⟨poll, hwaiting⟩ := hat.place.stage_underway
      cases Stream.consume_stage hwaiting
    · refine hv.consume (congrArg (·.phase) hb) hnow (fun ho => ?_) hmode hrest.hasReply_eq hq hat
      exact hp.hasReply_of_ready hc.capacity_pos hr (hv.tuned.mode.trans ho)
  · rw [Stream.moveDriver_blocked hstage hcw hr] at hm
    split at hm
    · next hdue =>
      cases hm
      have hmilestones : s.lifecycle.bearing.milestones = [] := by rw [hb]; rfl
      have hrings := hp.rings hc htime hr
      rw [hv.tuned.mode] at hrings
      have hsame : s.fireHealth.milestones = s.milestones :=
        congrArg (·.events) (Stream.fireHealth_trace hmilestones)
      have hwaiting := (Stream.fireHealth_fields hdue).1.trans hstage
      exact (hv.fireHealth hdue hrings).vigil hwaiting (hsame.trans hevents) hat
    · cases hm

/-! ## A delivery -/

/-- A delivery turns the health signal off only when it is down. -/
theorem Settled.isUnhealthy_eq (h : Settled c feed isOffloaded i s) {d : Delivery}
    {ending : Delivery.Ending}
    (hprocess : Delivery.process c.plan.setting (feed.chunkAt i) s.delivery = (d, ending)) :
    d.health.isUnhealthy = s.lifecycle.health.isUnhealthy := by
  have hhealth := Delivery.process_health c.setting (feed.chunkAt i) s.delivery
  rw [show Delivery.process c.setting _ _ = _ from hprocess] at hhealth
  dsimp only at hhealth
  cases ha : feed.answer i with
  | error e =>
    rw [hhealth, Feed.chunkAt_error ha]
    rfl
  | ok chunk =>
    rw [hhealth, (h.calm chunk ha).1]
    split
    · exact Health.Monitor.isUnhealthy_disable _
    · exact (h.calm chunk ha).1

/-- A delivery after which the stream goes on leaves the health signal alone. -/
theorem Receiving.health_eq (h : Receiving c feed i s)
    (hending : feed.ending? c.options.backoff i = none) {d : Delivery} {ending : Delivery.Ending}
    (hprocess : Delivery.process c.plan.setting (feed.chunkAt i) s.delivery = (d, ending)) :
    d.health = s.lifecycle.health := by
  have hhealth := Delivery.process_health c.setting (feed.chunkAt i) s.delivery
  have hreason := (Feed.reasonOf_chunkAt h.delivered).mpr hending
  rw [show Delivery.process c.setting _ _ = _ from hprocess] at hhealth
  dsimp only at hhealth
  cases hchunk : feed.chunkAt i with
  | none =>
    rw [hchunk] at hreason
    cases hreason
  | some chunk =>
    rw [hchunk] at hreason hhealth
    have hnotice : chunk.notice? = none := Option.map_eq_none_iff.mp hreason
    rw [hhealth, Option.bind_some, hnotice]
    rfl

/-- A delivery keeps to it. -/
theorem Vigil.deliver (h : Receiving c feed i s)
    (hv : Tuned c isOffloaded s ∧ Settled c feed isOffloaded i s)
    (hq : q = .received i ∨ (Point.received i).next feed c.options.backoff = some q)
    (hat : At c feed q (s.deliver c.plan (feed.chunkAt i))) :
    Vigil c feed isOffloaded q (s.deliver c.plan (feed.chunkAt i)) := by
  obtain ⟨htuned, hsettled⟩ := hv
  have hplace := hat.place.isAt
  rcases Stream.deliver_cases c.plan s (feed.chunkAt i) with
    ⟨d, flow, l, command, hr, hprocess, heq⟩ | ⟨d, heq⟩
  · rw [heq] at hplace ⊢
    cases hr with
    | ignored =>
      have hopen : (s.afterDelivery d).lifecycle.phase ≠ .closed := by
        show s.lifecycle.phase ≠ .closed
        rw [h.phase]
        unfold Feed.phaseAt
        split <;> decide
      rw [Lifecycle.currentCommand_eq _ hopen] at hplace
      cases hplace
    | continued =>
      have hq := hq.resolve_left fun hsame => by
        obtain ⟨j, hj⟩ := hplace
        cases hsame.symm.trans hj
      obtain ⟨hending, rfl⟩ := Point.next_fetch hq hplace
      obtain ⟨chunk, ha⟩ := Feed.answer_of_open h.delivered hending
      obtain ⟨hdown, hnone⟩ := hsettled.calm chunk ha
      have halarms := hsettled.alarms
      have hkeep := h.health_eq hending hprocess
      rw [hdown] at halarms
      rw [← hkeep] at hdown hnone
      have hafter : Tuned c isOffloaded (s.afterDelivery d) :=
        ⟨htuned.quiet, htuned.arming, (congrArg (·.isEnabled) hkeep).trans htuned.isEnabled,
          (congrArg (·.debounce) hkeep).trans htuned.debounce, htuned.mode⟩
      have hdeadline : feed.deadline? c.options (i + 1) = c.options.freshDeadline? s.now := by
        rw [Feed.deadline?_ok ha, h.now]
      exact hafter.begin hdown hnone ((List.append_nil _).symm.trans halarms) hdeadline
        h.resting.hasReply_eq
    | closed =>
      have hq := hq.resolve_left fun hsame => by
        obtain ⟨j, hj⟩ := hplace
        cases hsame.symm.trans hj
      obtain rfl := Point.next_close hq hplace
      have hsame := hsettled.isUnhealthy_eq hprocess
      show (Stream.proceed _ _).alarms = _
      rw [Stream.alarms_proceed, ← hsettled.alarms, ← hsame]
      dsimp only
      rw [Event.alarms_append, Event.alarms_append, Lifecycle.alarms_calmed,
        show (s.afterDelivery d).lifecycle.events = [] from htuned.quiet]
      exact congrArg (s.alarms ++ ·) (List.append_nil _)
  · rw [heq] at hplace
    cases hplace

/-! ## All steps -/

/-- The first fetch begins. -/
theorem Vigil.start (hv : Vigil c feed isOffloaded .ready s) (hnow : s.now = 0)
    (hphase : s.lifecycle.phase = .idle) (hr : Poller.Resting c.server feed 0 s.poller s.scene) :
    Vigil c feed isOffloaded (.booked 0) (s.proceed (s.lifecycle.start s.now)) := by
  obtain ⟨htuned, hdown, hnone, halarms⟩ := hv
  have hdeadline : feed.deadline? c.options 0 = c.options.freshDeadline? s.now := by
    rw [hnow]
    rfl
  rw [s.lifecycle.start_eq hphase, s.lifecycle.enterPolling_eq (by rw [hphase]; decide)]
  exact htuned.begin hdown hnone halarms hdeadline hr.hasReply_eq

/-- Every step of the driver keeps to it. -/
theorem Vigil.driver (hc : c.Served feed) (hhere : At c feed q s)
    (hv : Vigil c feed isOffloaded q s) (hm : s.moveDriver c.plan = some s')
    (hq : q' = q ∨ q.next feed c.options.backoff = some q') (hat : At c feed q' s') :
    Vigil c feed isOffloaded q' s' := by
  have hplace := hat.place.isAt
  cases hhere.place with
  | ready hstage hnow hb hclosed hr =>
    obtain rfl := Stream.DriverMove.eq (.start hstage) hm
    have hphase : s.lifecycle.phase = .idle := congrArg (·.phase) hb
    have hstart := hv.start hnow hphase hr
    rw [s.lifecycle.start_eq hphase] at hplace hstart ⊢
    obtain ⟨j, rfl⟩ := hplace
    rcases hq with hq | hq <;> cases hq
    exact hstart
  | @ordered i d _ hstage hopen htime hb hclosed hr =>
    obtain rfl := Stream.DriverMove.eq (.fetch hstage) hm
    have hevents : s.milestones = feed.log c.options.backoff i :=
      congrArg (·.events) hhere.trace
    have hstays : Watching c feed isOffloaded i { s with stage := .waiting (.fresh d) } :=
      hv.congr rfl rfl rfl fun _ _ => id
    exact hstays.vigil rfl hevents hat
  | @waiting _ i duty _ _ hpoint hstage hopen htime hb hclosed hp =>
    subst hpoint
    exact Vigil.driver_waiting hc (watching_iff.mp hv) hhere hstage htime hb hp hm hq hat
  | received h =>
    obtain rfl := Stream.DriverMove.eq (.deliver h.stage) hm
    exact Vigil.deliver h hv hq hat
  | leaving hstage =>
    rcases hstage with hstage | hstage
    · obtain rfl := Stream.DriverMove.eq (.close hstage) hm
      rcases hq with rfl | hq
      · exact hv
      · cases hq
        exact hv
    · obtain rfl := Stream.DriverMove.eq (.leave hstage) hm
      rcases hq with rfl | hq
      · exact hv
      · cases hq
        exact hv
  | finished hstage =>
    simp only [Stream.moveDriver, hstage] at hm
    cases hm

/-- Every step of a worker keeps to it, if the driver has seen the deadline when it has come. -/
theorem Vigil.worker (hhere : At c feed q s) (hv : Vigil c feed isOffloaded q s)
    (hseen : ∀ poll, s.stage = .waiting poll → s.lifecycle.health.isDue s.now = false)
    (hm : s.moveWorker c.plan = some s')
    (hq : q' = q ∨ q.next feed c.options.backoff = some q') (hat : At c feed q' s') :
    Vigil c feed isOffloaded q' s' := by
  obtain ⟨poller, scene, hworker, rfl⟩ := Stream.moveWorker_eq hm
  have hmode := Poller.isOffloaded_of_moveWorker hworker
  have hplace : s.stage.IsAt q' := hat.place.isAt
  cases hhere.place with
  | ready hstage hnow hb hclosed hr =>
    rw [hstage] at hplace
    obtain rfl : q' = .ready := hplace
    exact ⟨hv.1.congr rfl hmode, hv.2⟩
  | ordered hstage hopen htime hb hclosed hr =>
    have hreply := (hr.moveWorker hworker).1.hasReply_eq
    have hstays : Watching c feed isOffloaded _ { s with poller := poller, scene := scene } :=
      hv.congr rfl rfl hmode fun d _ hd => ⟨hd.1, fun h => by cases hreply.symm.trans h⟩
    rcases hq with rfl | hq
    · exact hstays
    · cases hq
      exact hstays
  | @waiting _ i duty _ _ hpoint hstage =>
    subst hpoint
    -- Whether or not this step brings the reply, the deadline has not come.
    have hstays : Watching c feed isOffloaded i { s with poller := poller, scene := scene } :=
      (watching_iff.mp hv).congr rfl rfl hmode fun d hd hold =>
        ⟨hold.1, fun _ => Health.Monitor.lt_of_not_due _ (hseen _ hstage) hd⟩
    exact hstays.vigil hstage hhere.milestones_eq hat
  | received h =>
    rw [h.stage] at hplace
    obtain ⟨j, rfl⟩ := hplace
    rcases hq with hq | hq
    · cases hq
      exact ⟨hv.1.congr rfl hmode, hv.2.alarms, hv.2.calm⟩
    · rw [Point.next] at hq
      split at hq <;> cases hq
  | leaving =>
    rcases hq with rfl | hq
    · exact hv
    · cases hq
      exact hv
  | finished hstage htime hending hp =>
    rcases hp with hp | hp <;> rw [hp] at hworker <;> cases hworker

/-- The end of a turn keeps to it. -/
theorem Vigil.turn (hv : Vigil c feed isOffloaded q s) :
    Vigil c feed isOffloaded q { s with turns := s.turns + 1 } := by
  cases q with
  | booked i | underway i => exact hv.congr rfl rfl rfl fun _ _ => id
  | ready => exact ⟨hv.1.congr rfl rfl, hv.2⟩
  | received i => exact ⟨hv.1.congr rfl rfl, hv.2.alarms, hv.2.calm⟩
  | leaving i | finished i => exact hv

/-- Time passes up to the next deadline at most. -/
theorem Stream.wake?_le {poll : Poll} {t d : Nat} (hstage : s.stage = .waiting poll)
    (hd : s.lifecycle.health.deadline = some d) (ht : s.wake? = some t) : t ≤ max s.now d := by
  unfold wake? driverWake? Health.Monitor.expiry? at ht
  rw [hstage, hd] at ht
  dsimp only [Option.map_some] at ht
  cases hpoll : poll.wake? <;> cases hworker : s.poller.workerWake? <;>
    simp only [hpoll, hworker, Option.some.injEq] at ht <;> omega

/-- The time that passes while nothing can happen keeps to it. -/
theorem Vigil.time (hhere : At c feed q s) (hv : Vigil c feed isOffloaded q s)
    (hd : s.moveDriver c.plan = none) (hover : s.isOver = false) {t : Nat}
    (ht : s.wake? = some t) : Vigil c feed isOffloaded q (s.atTime t) := by
  cases hhere.place with
  | ready hstage => exact absurd hd (Stream.DriverMove.start hstage).ne_none
  | ordered hstage => exact absurd hd (Stream.DriverMove.fetch hstage).ne_none
  | received h => exact absurd hd (Stream.DriverMove.deliver h.stage).ne_none
  | leaving hstage =>
    rcases hstage with hstage | hstage
    · exact absurd hd (Stream.DriverMove.close hstage).ne_none
    · exact absurd hd (Stream.DriverMove.leave hstage).ne_none
  | finished hstage =>
    unfold Stream.isOver at hover
    rw [hstage] at hover
    cases hover
  | @waiting _ i duty _ _ hpoint hstage hopen htime hb hclosed hp =>
    subst hpoint
    obtain ⟨hblocked, hdue⟩ := Stream.moveDriver_eq_none hstage hhere.closeWanted hd
    have hreply := hp.hasReply_of_blocked hblocked
    refine watching_iff.mpr ((watching_iff.mp hv).congr rfl rfl rfl fun d hdeadline hold => ?_)
    have hle := Stream.wake?_le hstage hdeadline ht
    refine ⟨?_, fun h => by cases hreply.symm.trans h⟩
    show max s.now t ≤ d
    omega

end RemoteConsole
