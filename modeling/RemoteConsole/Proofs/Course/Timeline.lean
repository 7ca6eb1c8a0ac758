import RemoteConsole.Proofs.Course.Run
import RemoteConsole.Proofs.Course.Vigil

/-!
# The health signal of whole runs

* `Schedule.Alert σ`: when it is not the driver's turn, the driver has seen whether the health
  deadline has come.
* `OnWatch c feed isOffloaded q σ`: a schedule on its course, with the vigil that the point asks
  for. `OnWatch.next`: what comes next keeps to it.
* `OnWatch.settles`, `OnWatch.rehearse`: so a run has the alarms of the feed's timeline.
* `Client.alarms_offloaded`: the alarms with and without a worker, and when they are the same.
-/

namespace RemoteConsole

open Schedule

variable {c : Client} {feed : Feed} {isOffloaded : Bool} {q q' : Point} {σ : Schedule} {i k : Nat}

/-- When it is not the driver's turn and it waits, no health deadline has come. -/
def Schedule.Alert (σ : Schedule) : Prop :=
  σ.queue.head? = some .driver ∨
    ∀ poll, σ.stream.stage = .waiting poll → σ.stream.lifecycle.health.isDue σ.stream.now = false

/-- The schedule is on its course and keeps its vigil. -/
structure OnWatch (c : Client) (feed : Feed) (isOffloaded : Bool) (q : Point) (σ : Schedule) :
    Prop where
  course : OnCourse c feed q σ
  vigil : Vigil c feed isOffloaded q σ.stream
  alert : σ.Alert

/-- A driver that can take no step has seen that no deadline has come. -/
theorem At.not_due {s : Stream} (h : At c feed q s) (hd : s.moveDriver c.plan = none) :
    ∀ poll, s.stage = .waiting poll → s.lifecycle.health.isDue s.now = false :=
  fun _ hstage => (Stream.moveDriver_eq_none hstage h.closeWanted hd).2

theorem Schedule.alert_ofStream {s : Stream} (h : At c feed q s) : (ofStream c.plan s).Alert := by
  rw [ofStream_eq]
  cases hd : s.canMove c.plan .driver with
  | true => exact .inl rfl
  | false =>
    have hnone : (s.moveDriver c.plan).isNone = true := Option.isSome_eq_false_iff.mp hd
    exact .inr (h.not_due (Option.isNone_iff_eq_none.mp hnone))

/-- What comes next is at the same point or the next. -/
theorem OnCourse.next_point (hc : c.Served feed) (h : OnCourse c feed q σ) :
    ∃ q', (q' = q ∨ q.next feed c.options.backoff = some q') ∧
      OnCourse c feed q' (σ.next c.plan) := by
  rcases h.next hc with hdone | ⟨hstay, -⟩ | ⟨q', hq, hto⟩
  · exact ⟨q, .inl rfl, by rw [hdone.next_eq]; exact h⟩
  · exact ⟨q, .inl rfl, hstay⟩
  · exact ⟨q', .inr hq, hto⟩

/-- A step within a turn, or the end of a turn. -/
theorem OnWatch.step (hc : c.Served feed) (h : OnWatch c feed isOffloaded q σ) {σ' : Schedule}
    (hstep : σ.step c.plan = some σ')
    (hq : q' = q ∨ q.next feed c.options.backoff = some q') (hcourse : OnCourse c feed q' σ') :
    OnWatch c feed isOffloaded q' σ' := by
  obtain ⟨⟨-, hhere⟩, hvigil, halert⟩ := h
  obtain ⟨t, rest, hqueue, hcase⟩ := step_turn hstep
  -- It is the driver's turn, or the driver has had its turn at this time.
  have hseen : t = .driver ∨ ∀ poll, σ.stream.stage = .waiting poll →
      σ.stream.lifecycle.health.isDue σ.stream.now = false := by
    refine halert.imp_left fun hhead => ?_
    rw [hqueue] at hhead
    exact Option.some.inj hhead
  rcases hcase with ⟨s, hm, rfl⟩ | ⟨hm, rfl⟩
  · cases t with
    | driver =>
      refine ⟨hcourse, hvigil.driver hc hhere hm hq hcourse.here, .inl ?_⟩
      rw [hqueue]
      rfl
    | worker =>
      have hseen := hseen.resolve_left nofun
      obtain ⟨poller, scene, -, rfl⟩ := Stream.moveWorker_eq hm
      exact ⟨hcourse, hvigil.worker hhere hseen hm hq hcourse.here, .inr hseen⟩
  · have hstream : (enqueue c.plan ⟨{ σ.stream with turns := σ.stream.turns + 1 }, rest⟩
        t.other).stream = { σ.stream with turns := σ.stream.turns + 1 } := enqueue_stream _ _
    have hhere' := hcourse.here
    rw [hstream] at hhere'
    obtain rfl := hhere'.unique hhere.turn
    refine ⟨hcourse, by rw [hstream]; exact hvigil.turn, .inr ?_⟩
    rw [hstream]
    cases t with
    | driver => exact hhere.not_due hm
    | worker => exact hseen.resolve_left nofun

/-- What comes next keeps to it. -/
theorem OnWatch.next (hc : c.Served feed) (h : OnWatch c feed isOffloaded q σ) :
    ∃ q', OnWatch c feed isOffloaded q' (σ.next c.plan) := by
  obtain ⟨q', hq, hcourse⟩ := h.course.next_point hc
  cases hstep : σ.step c.plan with
  | some σ' =>
    rw [next_of_step hstep] at hcourse ⊢
    exact ⟨q', h.step hc hstep hq hcourse⟩
  | none =>
    obtain ⟨-, hblocked⟩ := step_eq_none h.course.queued hstep
    have hd : σ.stream.moveDriver c.plan = none := hblocked .driver
    have hw : σ.stream.moveWorker c.plan = none := hblocked .worker
    cases hover : σ.stream.isOver with
    | true =>
      rw [IsDone.next_eq ⟨hstep, hover⟩]
      exact ⟨q, h⟩
    | false =>
      rcases h.course.here.clock hc hd hw with hover' | ⟨t, hwake, hat, -⟩
      · cases hover.symm.trans hover'
      · have hnext := next_of_wake hstep hover hwake
        have hstream := ofStream_stream c.plan (σ.stream.atTime t)
        rw [hnext] at hcourse ⊢
        have hhere := hcourse.here
        rw [hstream] at hhere
        obtain rfl := hhere.unique hat
        refine ⟨_, hcourse, ?_, alert_ofStream hat⟩
        rw [hstream]
        exact h.vigil.time h.course.here hd hover hwake

/-- Whatever a schedule comes to keeps to it. -/
theorem OnWatch.after (hc : c.Served feed) (h : OnWatch c feed isOffloaded q σ) {n : Nat}
    (hcourse : OnCourse c feed q' (Schedule.after c.plan n σ)) :
    Vigil c feed isOffloaded q' (Schedule.after c.plan n σ).stream := by
  have hwatch : ∃ q', OnWatch c feed isOffloaded q' (Schedule.after c.plan n σ) := by
    clear hcourse
    induction n generalizing q σ with
    | zero => exact ⟨q, h⟩
    | succ n ih =>
      obtain ⟨q₁, h₁⟩ := h.next hc
      exact ih h₁
  obtain ⟨q'', h'⟩ := hwatch
  obtain rfl := h'.course.here.unique hcourse.here
  exact h'.vigil

/-! ## Runs -/

/-- A stream that is about to start. -/
theorem OnWatch.start {poller : Poller} {scene : Scene}
    (h : OnCourse c feed .ready (ofStream c.plan (.ofOptions c.options poller scene))) :
    OnWatch c feed poller.isOffloaded .ready
      (ofStream c.plan (.ofOptions c.options poller scene)) := by
  have hhere := h.here
  have hstream := ofStream_stream c.plan (.ofOptions c.options poller scene)
  rw [hstream] at hhere
  refine ⟨h, ?_, alert_ofStream hhere⟩
  rw [hstream]
  exact ⟨⟨rfl, rfl, rfl, rfl, rfl⟩, rfl, rfl, rfl⟩

/-- After every outcome that is delivered, before the next fetch, the alarms are those of the
timeline. -/
theorem OnWatch.settles_at (hc : c.Served feed) (h : OnWatch c feed isOffloaded .ready σ)
    (hopen : ∀ j < i, feed.ending? c.options.backoff j = none)
    (hdelivered : feed.isDelivered c.options.backoff i = true) :
    ∃ n q, q.begun = i + 1 ∧ OnCourse c feed q (Schedule.after c.plan n σ) ∧
      (Schedule.after c.plan n σ).stream.alarms = feed.alarms c.options isOffloaded (i + 1) := by
  have hreceived : Point.Ahead feed c.options.backoff .ready (.received i) :=
    ((Point.ahead_booked hopen).tail rfl).tail (Point.next_underway hdelivered)
  cases hending : feed.ending? c.options.backoff i with
  | none =>
    obtain ⟨n, hn⟩ := h.course.ahead hc hreceived
    obtain ⟨-, halarms, hcalm⟩ := h.after hc hn
    obtain ⟨chunk, ha⟩ := Feed.answer_of_open hdelivered hending
    rw [(hcalm chunk ha).1] at halarms
    exact ⟨n, _, rfl, hn, (List.append_nil _).symm.trans halarms⟩
  | some reason =>
    obtain ⟨n, -, hn⟩ := h.course.finish hc hopen hending
    exact ⟨n, _, rfl, hn, h.after hc hn⟩

theorem OnWatch.settles (hc : c.Served feed) (h : OnWatch c feed isOffloaded .ready σ)
    (hopen : ∀ j < i, feed.ending? c.options.backoff j = none)
    (hdelivered : feed.isDelivered c.options.backoff i = true) :
    ∃ n, (Schedule.after c.plan n σ).stream.alarms = feed.alarms c.options isOffloaded (i + 1) := by
  obtain ⟨n, -, -, -, halarms⟩ := h.settles_at hc hopen hdelivered
  exact ⟨n, halarms⟩

/-- A rehearsal of a stream that an outcome closes ends with the alarms of the timeline. -/
theorem OnWatch.rehearse (hc : c.Served feed) {s₀ : Stream} {reason : CloseReason}
    (h : OnWatch c feed isOffloaded .ready (ofStream c.plan s₀))
    (hopen : ∀ i < k, feed.ending? c.options.backoff i = none)
    (hending : feed.ending? c.options.backoff k = some reason) :
    ∃ s, s.alarms = feed.alarms c.options isOffloaded (k + 1) ∧ ∃ bound,
      ∀ limit settleSteps steps, bound ≤ limit → bound ≤ settleSteps → bound ≤ steps →
        ∀ hasStream hasHandle,
          Rehearsal.runUntil c.plan limit settleSteps steps ⟨s₀, hasStream, hasHandle, []⟩ =
            (⟨s, hasStream, hasHandle, []⟩, .over) := by
  obtain ⟨n, hdone, hn⟩ := h.course.finish hc hopen hending
  exact ⟨_, h.after hc hn, Rehearsal.runUntil_of_after c.plan n s₀ hdone⟩

/-! ## Main statement -/

/-- The alarms of a stream, whether it fetches by itself or through a worker: both have their
timeline, up to every outcome that settles the signal, and at the end. The two timelines are the
same unless an outcome comes at the very time of a deadline: a stream that fetches by itself takes
such an outcome first, and a worker's stream has the signal go up and down. -/
theorem Client.alarms_offloaded (isThreaded : Bool) (hc : c.Served feed) :
    ∃ s₁ s₂ scene₁ scene₂,
      (c.withOffload .never).start isThreaded .empty = (.ok s₁, scene₁) ∧
      (c.withOffload .always).start isThreaded .empty = (.ok s₂, scene₂) ∧
      (∀ i, (∀ j < i, feed.ending? c.options.backoff j = none) →
        feed.isDelivered c.options.backoff i = true →
        (∃ n, (Schedule.after c.plan n (ofStream c.plan s₁)).stream.alarms =
          feed.alarms c.options false (i + 1)) ∧
        ∃ n, (Schedule.after c.plan n (ofStream c.plan s₂)).stream.alarms =
          feed.alarms c.options true (i + 1)) ∧
      (∀ k reason, (∀ i < k, feed.ending? c.options.backoff i = none) →
        feed.ending? c.options.backoff k = some reason →
        ∃ r₁ r₂, r₁.alarms = feed.alarms c.options false (k + 1) ∧
          r₂.alarms = feed.alarms c.options true (k + 1) ∧
          ∃ bound, ∀ limit settleSteps steps,
            bound ≤ limit → bound ≤ settleSteps → bound ≤ steps →
            Rehearsal.runUntil c.plan limit settleSteps steps ⟨s₁, true, true, []⟩ =
                (⟨r₁, true, true, []⟩, .over) ∧
              Rehearsal.runUntil c.plan limit settleSteps steps ⟨s₂, true, true, []⟩ =
                (⟨r₂, true, true, []⟩, .over)) ∧
      ∀ n, feed.alarms c.options true n = feed.alarms c.options false n ↔
        ∀ i < n, ¬ feed.IsTie c.options i := by
  have hnever : (c.withOffload .never).Served feed :=
    ⟨hc.valid, hc.retries, hc.orders, hc.events, hc.call, hc.connects, hc.hooks⟩
  have halways : (c.withOffload .always).Served feed :=
    ⟨hc.valid, hc.retries, hc.orders, hc.events, hc.call, hc.connects, hc.hooks⟩
  have hdirect := OnWatch.start (onCourse_direct (c.withOffload .never) feed)
  have hoffloaded := OnWatch.start (onCourse_offloaded halways)
  refine ⟨_, _, _, _, hnever.start_direct rfl, halways.start_offloaded rfl,
    fun i hopen hdelivered => ⟨?_, ?_⟩, fun k reason hopen hending => ?_,
    fun n => Feed.alarms_eq_iff⟩
  · obtain ⟨n, halarms⟩ := hdirect.settles hnever hopen hdelivered
    exact ⟨n, halarms.trans (Feed.alarms_withOffload .never (i + 1))⟩
  · obtain ⟨n, halarms⟩ := hoffloaded.settles halways hopen hdelivered
    exact ⟨n, halarms.trans (Feed.alarms_withOffload .always (i + 1))⟩
  · obtain ⟨r₁, halarms₁, bound₁, hrun₁⟩ := hdirect.rehearse hnever hopen hending
    obtain ⟨r₂, halarms₂, bound₂, hrun₂⟩ := hoffloaded.rehearse halways hopen hending
    refine ⟨r₁, r₂, halarms₁.trans (Feed.alarms_withOffload .never (k + 1)),
      halarms₂.trans (Feed.alarms_withOffload .always (k + 1)), bound₁ + bound₂,
      fun limit settleSteps steps hlimit hsettles hsteps => ⟨?_, ?_⟩⟩
    · exact hrun₁ limit settleSteps steps (by omega) (by omega) (by omega) true true
    · exact hrun₂ limit settleSteps steps (by omega) (by omega) (by omega) true true

/-- The client with a signal that goes up as soon as a fetch is waited for. -/
def Client.hasty (c : Client) : Client :=
  { c with options := (c.options.withArming .onEveryPoll).withDebounce 0 0 }

/-- The short feed: the signal is up until the text is there, and up again until the end. -/
theorem Client.alarms_offloaded_brief :
    ∃ s₁ s₂ scene₁ scene₂,
      ((Feed.brief.client .auto).hasty.withOffload .never).start false .empty =
        (.ok s₁, scene₁) ∧
      ((Feed.brief.client .auto).hasty.withOffload .always).start false .empty =
        (.ok s₂, scene₂) ∧
      ∃ r₁ r₂, r₁.alarms = [(0, true), (262, false), (262, true), (265, false)] ∧
        r₂.alarms = r₁.alarms ∧ ∃ bound, ∀ limit settleSteps steps,
          bound ≤ limit → bound ≤ settleSteps → bound ≤ steps →
          Rehearsal.runUntil (Feed.brief.client .auto).hasty.plan limit settleSteps steps
              ⟨s₁, true, true, []⟩ = (⟨r₁, true, true, []⟩, .over) ∧
            Rehearsal.runUntil (Feed.brief.client .auto).hasty.plan limit settleSteps steps
              ⟨s₂, true, true, []⟩ = (⟨r₂, true, true, []⟩, .over) := by
  have hc := Feed.brief.served_client .auto
  have hserved : (Feed.brief.client .auto).hasty.Served Feed.brief :=
    ⟨rfl, hc.retries, hc.orders, hc.events, hc.call, hc.connects, hc.hooks⟩
  have hopen : ∀ i < 2,
      Feed.brief.ending? (Feed.brief.client .auto).hasty.options.backoff i = none := by decide
  obtain ⟨s₁, s₂, scene₁, scene₂, hstart₁, hstart₂, -, hend, -⟩ :=
    Client.alarms_offloaded false hserved
  obtain ⟨r₁, r₂, halarms₁, halarms₂, hrun⟩ := hend 2 .serverClosed hopen rfl
  exact ⟨s₁, s₂, scene₁, scene₂, hstart₁, hstart₂, r₁, r₂, halarms₁.trans (by decide +kernel),
    halarms₂.trans ((by decide +kernel : _ = _).trans halarms₁.symm), hrun⟩

/-- A text and then the end, both at once. -/
def Feed.instant : Feed where
  answer
    | 0 => .ok (some (.text "ready"))
    | _ + 1 => .ok none
  latency _ := 0

/-- Every outcome comes at the time of its deadline. A stream that fetches by itself has no alarm,
and a worker's stream has one before each outcome. -/
theorem Client.alarms_apart :
    (Feed.instant.client .auto).hasty.Served Feed.instant ∧
    ∃ s₁ s₂ scene₁ scene₂,
      ((Feed.instant.client .auto).hasty.withOffload .never).start false .empty =
        (.ok s₁, scene₁) ∧
      ((Feed.instant.client .auto).hasty.withOffload .always).start false .empty =
        (.ok s₂, scene₂) ∧
      (Rehearsal.runUntil (Feed.instant.client .auto).hasty.plan 10 100 10
        ⟨s₁, true, true, []⟩).2 = .over ∧
      (Rehearsal.runUntil (Feed.instant.client .auto).hasty.plan 10 100 10
        ⟨s₂, true, true, []⟩).2 = .over ∧
      (Rehearsal.runUntil (Feed.instant.client .auto).hasty.plan 10 100 10
        ⟨s₁, true, true, []⟩).1.stream.alarms = [] ∧
      (Rehearsal.runUntil (Feed.instant.client .auto).hasty.plan 10 100 10
        ⟨s₂, true, true, []⟩).1.stream.alarms =
          [(0, true), (0, false), (0, true), (0, false)] := by
  have hc := Feed.instant.served_client .auto
  have hserved : (Feed.instant.client .auto).hasty.Served Feed.instant :=
    ⟨rfl, hc.retries, hc.orders, hc.events, hc.call, hc.connects, hc.hooks⟩
  have hnever : ((Feed.instant.client .auto).hasty.withOffload .never).Served Feed.instant :=
    ⟨rfl, hc.retries, hc.orders, hc.events, hc.call, hc.connects, hc.hooks⟩
  have halways : ((Feed.instant.client .auto).hasty.withOffload .always).Served Feed.instant :=
    ⟨rfl, hc.retries, hc.orders, hc.events, hc.call, hc.connects, hc.hooks⟩
  exact ⟨hserved, _, _, _, _, hnever.start_direct rfl, halways.start_offloaded rfl,
    by decide +kernel, by decide +kernel, by decide +kernel, by decide +kernel⟩

end RemoteConsole
