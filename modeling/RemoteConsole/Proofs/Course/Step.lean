import RemoteConsole.Proofs.Course.Outcome
import RemoteConsole.Proofs.Stream.Steps

/-!
# From point to point

* `At.driver`, `At.worker`: every step of the driver or the worker leads to the next point, or stays
  at the point and lowers the rank.
* `At.clock`: when neither can take a step and the stream is not over, time passes up to a moment at
  which one of them can.
* `At.turn`: the end of a turn changes nothing.
-/

namespace RemoteConsole

variable {c : Client} {feed : Feed} {q : Point} {s s' : Stream} {i : Nat}

/-- A step leads to the next point, or stays at the point and lowers the rank. -/
def Advances (c : Client) (feed : Feed) (q : Point) (s s' : Stream) : Prop :=
  At c feed q s' ∧ s'.rank < s.rank ∨
    ∃ q', q.next feed c.options.backoff = some q' ∧ At c feed q' s'

namespace Stream

theorem trace_waiting {poll : Poll} (h : s.stage = .waiting poll) :
    s.trace = ⟨s.scene.record, s.milestones, none⟩ := by
  unfold trace closed?
  rw [h]
  rfl

theorem trace_executing {command : Command} (h : s.stage = .executing command) :
    s.trace = ⟨s.scene.record, s.milestones, none⟩ := by
  unfold trace closed?
  rw [h]
  rfl

theorem deadline_of_isDue (h : s.lifecycle.health.isDue s.now = true) :
    s.lifecycle.health.deadline.isSome = true := by
  unfold Health.Monitor.isDue at h
  split at h
  · next d hd => rw [hd]; rfl
  · cases h

/-- A health deadline that is applied leaves the stream where it is, and is gone. -/
theorem fireHealth_fields (h : s.lifecycle.health.isDue s.now = true) :
    s.fireHealth.stage = s.stage ∧ s.fireHealth.poller = s.poller ∧ s.fireHealth.scene = s.scene ∧
      s.fireHealth.now = s.now ∧ s.fireHealth.isClosed = s.isClosed ∧
      s.fireHealth.closeWanted = s.closeWanted ∧ s.fireHealth.rank < s.rank := by
  have hgone := s.lifecycle.fireHealth_deadline h
  have hsome := deadline_of_isDue h
  obtain ⟨l, published, heq, hl⟩ := s.fireHealth_eq
  have hdeadline : l.health.deadline = none := by
    rcases hl with rfl | rfl <;> exact hgone
  rw [heq]
  refine ⟨rfl, rfl, rfl, rfl, rfl, rfl, ?_⟩
  unfold rank
  dsimp only
  rw [hdeadline, if_pos hsome, Option.isSome_none, if_neg Bool.false_ne_true]
  omega

/-- The rank goes down with those of poll and poller. -/
theorem rank_withPoll_lt {poll : Poll} {r : Poller.State} (hstage : s.stage = .waiting poll)
    (h : r.1.rank + r.2.1.rank < s.poller.rank + poll.rank) : (s.withPoll r).rank < s.rank := by
  unfold rank
  rw [hstage]
  show 2 * (r.2.1.rank + r.1.rank) + _ < 2 * (poll.rank + s.poller.rank) + _
  have hhealth : (s.withPoll r).lifecycle.health = s.lifecycle.health := rfl
  rw [hhealth]
  omega

theorem rank_poller_lt {poller : Poller} {scene : Scene} (h : poller.rank < s.poller.rank) :
    ({ s with poller := poller, scene := scene } : Stream).rank < s.rank := by
  unfold rank
  dsimp only
  omega

end Stream

/-- The errors in a row never fill a worker's counter. -/
theorem Client.Served.failuresInRow_lt (hc : c.Served feed)
    (hopen : ∀ j < i, feed.ending? c.options.backoff j = none) :
    feed.failuresInRow (i + 1) < 2 ^ 32 := by
  have hle := Feed.streak_le hopen
  have heq := Feed.failuresInRow_eq_streak hopen
  have hretries := hc.retries_lt
  cases ha : feed.answer i with
  | ok chunk => rw [Feed.failuresInRow_ok ha]; decide
  | error e => rw [Feed.failuresInRow_error ha]; omega

/-! ## The driver -/

/-- A driver that waits for a poll goes on with it, or applies a health deadline. -/
theorem At.driver_waiting (hc : c.Served feed) {duty : Duty} {poll : Poll}
    (htrace : s.trace = (duty.point i).trace c feed) (hcw : s.closeWanted = false)
    (hstage : s.stage = .waiting poll)
    (hopen : ∀ j < i, feed.ending? c.options.backoff j = none)
    (htime : duty.OnTime feed c.options.backoff i s.now)
    (hb : s.lifecycle.bearing = feed.bearing c.options.backoff i) (hclosed : s.isClosed = false)
    (hp : Poller.Polling c.server feed i duty s.poller poll s.scene)
    (hm : s.moveDriver c.plan = some s') : Advances c feed (duty.point i) s s' := by
  have htrace' := (Stream.trace_waiting hstage).symm.trans htrace
  have hmove := hp.move_cases s.now hc.call hc.capacity_pos hc.orders
  rcases hmove with ⟨r, hr, hgoes⟩ | ⟨p', poll', scene, hr, hrest, hrecord, hdue⟩ | ⟨hr, -⟩
  · obtain rfl := Stream.DriverMove.eq (.poll hstage hcw hr) hm
    obtain ⟨duty', hp', hcase, hrank⟩ := hgoes
    have hlt := Stream.rank_withPoll_lt hstage hrank
    have htrace₁ : (s.withPoll r).trace = ⟨r.2.2.record, s.milestones, none⟩ :=
      Stream.trace_waiting rfl
    rcases hcase with ⟨rfl, hscene⟩ | hstep
    · refine .inl ⟨⟨.waiting rfl rfl hopen htime hb hclosed hp', ?_, hcw⟩, hlt⟩
      rw [htrace₁, hscene]
      exact htrace'
    · obtain ⟨htime', hcase'⟩ := htime.step hstep
      rcases hcase' with ⟨hpoint, hrecord⟩ | ⟨hbooked, hunderway, hrecord⟩
      · refine .inl ⟨⟨.waiting hpoint.symm rfl hopen htime' hb hclosed hp', ?_, hcw⟩, hlt⟩
        rw [htrace₁, hrecord]
        exact htrace'
      · refine .inr ⟨.underway i, by rw [hbooked]; rfl,
          .waiting hunderway.symm rfl hopen htime' hb hclosed hp', ?_, hcw⟩
        rw [hbooked] at htrace'
        rw [htrace₁, hrecord]
        exact Point.trace_underway htrace'
  · obtain rfl := Stream.DriverMove.eq (.consume hstage hcw hr) hm
    have hnow : s.now = feed.arrival c.options.backoff i := by
      rcases hdue with ⟨due, rfl, hdue⟩ | rfl
      · obtain ⟨rfl, hle⟩ := htime
        exact Nat.le_antisymm hle hdue
      · exact htime
    have hpoint : duty.point i = .underway i := by
      rcases hdue with ⟨due, rfl, -⟩ | rfl <;> rfl
    rw [hpoint] at htrace' ⊢
    have hholding : Holding c feed i (s.withPoll (p', poll', scene)) :=
      ⟨hopen, hb, hnow, hclosed, hcw, hrest,
        hrecord.trans (congrArg (·.record) htrace'), congrArg (·.events) htrace'⟩
    exact .inr ⟨_, rfl, hholding.consume hc⟩
  · rw [Stream.moveDriver_blocked hstage hcw hr] at hm
    split at hm
    · next hdue =>
      cases hm
      have hmilestones : s.lifecycle.bearing.milestones = [] := by rw [hb]; rfl
      obtain ⟨hstage', hpoller', hscene', hnow', hclosed', hcw', hlt⟩ :=
        Stream.fireHealth_fields hdue
      refine .inl ⟨⟨.waiting rfl (hstage'.trans hstage) hopen (hnow' ▸ htime) ?_
        (hclosed'.trans hclosed) ?_, ?_, hcw'.trans hcw⟩, hlt⟩
      · rw [Stream.fireHealth_bearing hmilestones, hb]
      · rw [hpoller', hscene']
        exact hp
      · rw [Stream.fireHealth_trace hmilestones]
        exact htrace
    · cases hm

theorem At.driver (hc : c.Served feed) (h : At c feed q s) (hm : s.moveDriver c.plan = some s') :
    Advances c feed q s s' := by
  obtain ⟨hplace, htrace, hcw⟩ := h
  cases hplace with
  | ready hstage hnow hb hclosed hr =>
    obtain rfl := Stream.DriverMove.eq (.start hstage) hm
    have hphase : s.lifecycle.phase = .idle := congrArg (·.phase) hb
    have henter : (s.lifecycle.enterPolling s.now).bearing =
        s.lifecycle.bearing.enter .polling := by
      rw [Lifecycle.bearing_enterPolling, Lifecycle.bearing_enter _ (by rw [hphase]; decide)]
    rw [s.lifecycle.start_eq hphase]
    refine .inr ⟨.booked 0, rfl, .ordered rfl (fun _ hj => absurd hj (Nat.not_lt_zero _)) ?_ ?_
      hclosed hr, ?_, hcw⟩
    · exact hnow
    · show (s.lifecycle.enterPolling s.now).drained.bearing = _
      rw [Lifecycle.bearing_drained, henter, hb, Feed.bearing, Feed.streak,
        hc.ordered.stepAfter_zero]
      rfl
    · have hrecord : s.scene.record = .empty := congrArg (·.record) htrace
      have hevents : s.milestones = [] := congrArg (·.events) htrace
      rw [Stream.trace_proceed, henter, hb, hrecord, hevents, hnow]
      show _ = Trace.mk (c.recordBefore feed 0) _ _
      have hempty : c.recordBefore feed 0 = .empty := by
        have hnothing : feed.contentsBefore 0 = [] := rfl
        unfold Client.recordBefore
        rw [hnothing, Converter.itemsAfter, Setting.passed_nil]
        rfl
      rw [hempty]
      rfl
  | @ordered i d _ hstage hopen htime hb hclosed hr =>
    obtain rfl := Stream.DriverMove.eq (.fetch hstage) hm
    have hpoint : Point.booked i = (Duty.ordered d).point i := rfl
    refine .inl ⟨⟨.waiting hpoint rfl hopen htime hb hclosed (.fresh hr), ?_, hcw⟩, ?_⟩
    · rw [Stream.trace_executing hstage] at htrace
      rw [← htrace]
      exact Stream.trace_waiting rfl
    · unfold Stream.rank
      rw [hstage]
      show 2 * (10 + s.poller.rank) + _ < 2 * (20 + s.poller.rank) + _
      dsimp only
      omega
  | waiting hq hstage hopen htime hb hclosed hp =>
    subst hq
    exact At.driver_waiting hc htrace hcw hstage hopen htime hb hclosed hp hm
  | received h =>
    obtain rfl := Stream.DriverMove.eq (.deliver h.stage) hm
    exact .inr ⟨_, rfl, h.deliver hc htrace hcw⟩
  | @leaving i reason _ hstage hopen htime hending hr =>
    rcases hstage with hstage | hstage
    · obtain rfl := Stream.DriverMove.eq (.close hstage) hm
      refine .inl ⟨⟨.leaving (.inr rfl) hopen htime hending hr, ?_, hcw⟩, ?_⟩
      · rw [Stream.trace_executing hstage] at htrace
        rw [← htrace]
        rfl
      · unfold Stream.rank
        rw [hstage]
        show 2 * (0 + s.poller.rank) + _ < 2 * (1 + s.poller.rank) + _
        dsimp only
        omega
    · obtain rfl := Stream.DriverMove.eq (.leave hstage) hm
      refine .inr ⟨.finished i, rfl, .finished rfl htime hending hr.stop_eq, ?_, hcw⟩
      · have hrecord : s.scene.record = c.recordClosed feed i := congrArg (·.record) htrace
        have hevents : s.milestones = feed.logClosed c.options.backoff i :=
          congrArg (·.events) htrace
        show Trace.mk s.scene.record s.milestones (some (reason, s.now)) = _
        rw [hrecord, hevents, htime]
        unfold Point.trace
        dsimp only
        rw [hending]
        rfl
  | finished hstage =>
    simp only [Stream.moveDriver, hstage] at hm
    cases hm

/-! ## The worker -/

/-- A worker that steps between two polls leaves the stream where it is. -/
theorem trace_worker {poller : Poller} {scene : Scene} (hrecord : scene.record = s.scene.record) :
    ({ s with poller := poller, scene := scene } : Stream).trace = s.trace :=
  congrArg (fun record => Trace.mk record _ _) hrecord

/-- A step of the worker that is recorded nowhere stays at the point. -/
theorem Advances.worker {poller : Poller} {scene : Scene}
    (hplace : Place c feed q { s with poller := poller, scene := scene })
    (hrecord : scene.record = s.scene.record) (htrace : s.trace = q.trace c feed)
    (hcw : s.closeWanted = false) (hrank : poller.rank < s.poller.rank) :
    Advances c feed q s { s with poller := poller, scene := scene } :=
  .inl ⟨⟨hplace, (trace_worker hrecord).trans htrace, hcw⟩, Stream.rank_poller_lt hrank⟩

theorem At.worker (hc : c.Served feed) (h : At c feed q s) (hm : s.moveWorker c.plan = some s') :
    Advances c feed q s s' := by
  obtain ⟨hplace, htrace, hcw⟩ := h
  obtain ⟨poller, scene, hworker, rfl⟩ := Stream.moveWorker_eq hm
  have hworker' : s.poller.moveWorker c.server s.now s.scene = some (poller, scene) := hworker
  have hconnect := c.server.connect_record s.scene
  cases hplace with
  | ready hstage hnow hb hclosed hr =>
    obtain ⟨hr', rfl, -, hrank⟩ := hr.moveWorker hworker'
    exact .worker (.ready hstage hnow hb hclosed hr') hconnect htrace hcw hrank
  | ordered hstage hopen htime hb hclosed hr =>
    obtain ⟨hr', rfl, -, hrank⟩ := hr.moveWorker hworker'
    exact .worker (.ordered hstage hopen htime hb hclosed hr') hconnect htrace hcw hrank
  | @waiting _ i duty poll _ hq hstage hopen htime hb hclosed hp =>
    subst hq
    obtain ⟨duty', hp', hstep, hrank⟩ :=
      hp.moveWorker hc.call (hc.failuresInRow_lt hopen) hworker'
    obtain ⟨htime', hcase⟩ := htime.step hstep
    have htrace' := (Stream.trace_waiting hstage).symm.trans htrace
    rcases hcase with ⟨hpoint, hrecord⟩ | ⟨hbooked, hunderway, hrecord⟩
    · exact .worker (.waiting hpoint.symm hstage hopen htime' hb hclosed hp') hrecord htrace hcw
        hrank
    · refine .inr ⟨.underway i, by rw [hbooked]; rfl,
        .waiting hunderway.symm hstage hopen htime' hb hclosed hp', ?_, hcw⟩
      rw [hbooked] at htrace'
      have htrace₁ : ({ s with poller := poller, scene := scene } : Stream).trace =
          ⟨scene.record, s.milestones, none⟩ := Stream.trace_waiting hstage
      rw [htrace₁, hrecord]
      exact Point.trace_underway htrace'
  | received h =>
    obtain ⟨hr', rfl, -, hrank⟩ := h.resting.moveWorker hworker'
    refine .worker (.received ?_) hconnect htrace hcw hrank
    exact ⟨h.stage, h.isOpen, h.now, h.delivered, h.phase, h.reason, h.milestones, h.goesOn,
      h.isClosed, hr'⟩
  | leaving hstage hopen htime hending hr =>
    obtain ⟨hr', rfl, -, hrank⟩ := hr.moveWorker hworker'
    exact .worker (.leaving hstage hopen htime hending hr') hconnect htrace hcw hrank
  | finished hstage htime hending hp =>
    rcases hp with hp | hp <;> rw [hp] at hworker <;> cases hworker

/-! ## Turns and time -/

/-- The end of a turn leaves the stream where it is. -/
theorem At.turn (h : At c feed q s) : At c feed q { s with turns := s.turns + 1 } := by
  obtain ⟨hplace, htrace, hcw⟩ := h
  refine ⟨?_, htrace, hcw⟩
  cases hplace with
  | ready hstage hnow hb hclosed hr => exact .ready hstage hnow hb hclosed hr
  | ordered hstage hopen htime hb hclosed hr => exact .ordered hstage hopen htime hb hclosed hr
  | waiting hq hstage hopen htime hb hclosed hp =>
    exact .waiting hq hstage hopen htime hb hclosed hp
  | received h =>
    exact .received ⟨h.stage, h.isOpen, h.now, h.delivered, h.phase, h.reason, h.milestones,
      h.goesOn, h.isClosed, h.resting⟩
  | leaving hstage hopen htime hending hr => exact .leaving hstage hopen htime hending hr
  | finished hstage htime hending hp => exact .finished hstage htime hending hp

/-- The time at which something happens again: the one that poll and worker wait for, unless a
health deadline comes before it. -/
theorem Stream.wake?_eq {poll : Poll} {t : Nat} (hstage : s.stage = .waiting poll)
    (hwaits : s.poller.WaitsFor poll t) :
    s.wake? = some (match s.lifecycle.health.deadline with
      | none => t
      | some d => min t (max s.now d)) := by
  unfold wake? driverWake? Health.Monitor.expiry?
  rw [hstage]
  rcases hwaits with ⟨hpoll, hworker⟩ | ⟨hpoll, hworker⟩
  · cases s.lifecycle.health.deadline with
    | none => simp only [hpoll, hworker, Option.map_none]
    | some d => simp only [hpoll, hworker, Option.map_some]
  · cases s.lifecycle.health.deadline with
    | none => simp only [hpoll, hworker, Option.map_none]
    | some d => simp only [hpoll, hworker, Option.map_some, Nat.min_comm]

/-- Before its health deadline a stream goes on at the time that poll and worker wait for, or at the
deadline if that comes first. -/
theorem Stream.wake?_cases {poll : Poll} {t : Nat} (hstage : s.stage = .waiting poll)
    (hwaits : s.poller.WaitsFor poll t) (hdue : s.lifecycle.health.isDue s.now = false)
    (hlt : s.now < t) :
    ∃ next, s.wake? = some next ∧ s.now < next ∧ next ≤ t ∧
      (next = t ∨ s.lifecycle.health.deadline = some next) := by
  have hwake := wake?_eq hstage hwaits
  cases hmonitor : s.lifecycle.health.deadline with
  | none =>
    rw [hmonitor] at hwake
    exact ⟨t, hwake, hlt, Nat.le_refl t, .inl rfl⟩
  | some d =>
    have hearly : s.now < d := by
      unfold Health.Monitor.isDue at hdue
      rw [hmonitor] at hdue
      exact Nat.lt_of_not_le (of_decide_eq_false hdue)
    rw [hmonitor] at hwake
    dsimp only at hwake
    rw [Nat.max_eq_right (Nat.le_of_lt hearly)] at hwake
    by_cases hle : t ≤ d
    · rw [Nat.min_eq_left hle] at hwake
      exact ⟨t, hwake, hlt, Nat.le_refl t, .inl rfl⟩
    · have hlate := Nat.le_of_not_le hle
      rw [Nat.min_eq_right hlate] at hwake
      exact ⟨d, hwake, hearly, hlate, .inr rfl⟩

theorem Duty.OnTime.atTime {p : Backoff.Policy} {duty : Duty} {now now' t : Nat}
    (h : duty.OnTime feed p i now) (hwake : duty.wake? = some t) (hle : now' ≤ t) :
    duty.OnTime feed p i now' := by
  cases duty with
  | delaying wake =>
    obtain ⟨hbegin, -⟩ := h
    cases hwake
    exact ⟨hbegin, hle⟩
  | fetching due =>
    obtain ⟨harrival, -⟩ := h
    cases hwake
    exact ⟨harrival, hle⟩
  | idle | ordered | answered => cases hwake

/-- When neither driver nor worker can take a step, the stream is over, or it is time for one of
them before anything is late. -/
theorem At.clock (hc : c.Served feed) (h : At c feed q s) (hd : s.moveDriver c.plan = none)
    (hw : s.moveWorker c.plan = none) :
    s.isOver = true ∨ ∃ t, s.wake? = some t ∧ At c feed q (s.atTime t) ∧
      (s.atTime t).rank = s.rank ∧ ∃ task, (s.atTime t).canMove c.plan task = true := by
  obtain ⟨hplace, htrace, hcw⟩ := h
  cases hplace with
  | ready hstage => exact absurd hd (Stream.DriverMove.start hstage).ne_none
  | ordered hstage => exact absurd hd (Stream.DriverMove.fetch hstage).ne_none
  | received h => exact absurd hd (Stream.DriverMove.deliver h.stage).ne_none
  | leaving hstage =>
    rcases hstage with hstage | hstage
    · exact absurd hd (Stream.DriverMove.close hstage).ne_none
    · exact absurd hd (Stream.DriverMove.leave hstage).ne_none
  | finished hstage =>
    refine .inl ?_
    unfold Stream.isOver
    rw [hstage]
  | @waiting _ i duty poll _ hq hstage hopen htime hb hclosed hp =>
    refine .inr ?_
    obtain ⟨hblocked, hdue⟩ := Stream.moveDriver_eq_none hstage hcw hd
    have hidle : (s.poller.moveWorker c.server s.now s.scene).isSome = false := by
      have : (s.moveWorker c.plan).isSome = false := by rw [hw]; rfl
      rw [← this]
      exact (Option.isSome_map).symm
    obtain ⟨t, hlt, hwake, hwaits⟩ :
        ∃ t, s.now < t ∧ duty.wake? = some t ∧ s.poller.WaitsFor poll t := by
      rcases hp.move_cases s.now hc.call hc.capacity_pos hc.orders with
        ⟨r, hr, -⟩ | ⟨_, _, _, hr, -⟩ | ⟨-, hbusy | htimer⟩
      · cases hblocked.symm.trans hr
      · cases hblocked.symm.trans hr
      · cases hidle.symm.trans hbusy
      · exact htimer
    obtain ⟨next, hwakes, hlater, hle, hcase⟩ := Stream.wake?_cases hstage hwaits hdue hlt
    have hnow : (s.atTime next).now = next := Nat.max_eq_right (Nat.le_of_lt hlater)
    refine ⟨next, hwakes, ⟨.waiting hq hstage hopen ?_ hb hclosed hp, ?_, hcw⟩, rfl, ?_⟩
    · rw [hnow]
      exact htime.atTime hwake hle
    · rw [Stream.trace_waiting hstage] at htrace
      rw [← htrace]
      exact Stream.trace_waiting hstage
    · by_cases hdriver : (s.atTime next).moveDriver c.plan = none
      · -- The driver is held up, so no deadline has come: it is the worker's time.
        obtain ⟨hblocked', hdue'⟩ :=
          Stream.moveDriver_eq_none (s := s.atTime next) hstage hcw hdriver
        have hnext : next = t := by
          rcases hcase with hnext | hmonitor
          · exact hnext
          · unfold Health.Monitor.isDue at hdue'
            rw [show (s.atTime next).lifecycle.health.deadline = some next from hmonitor,
              hnow] at hdue'
            exact absurd (Nat.le_refl next) (of_decide_eq_false hdue')
        refine ⟨.worker, ?_⟩
        rcases hp.move_cases (s.atTime next).now hc.call hc.capacity_pos hc.orders with
          ⟨r, hr, -⟩ | ⟨_, _, _, hr, -⟩ | ⟨-, hbusy | ⟨t', hlt', hwake', -⟩⟩
        · cases hblocked'.symm.trans hr
        · cases hblocked'.symm.trans hr
        · exact Option.isSome_map.trans hbusy
        · cases hwake.symm.trans hwake'
          rw [hnow, hnext] at hlt'
          exact absurd hlt' (Nat.lt_irrefl t)
      · exact ⟨.driver, Option.isSome_iff_ne_none.mpr hdriver⟩

end RemoteConsole
