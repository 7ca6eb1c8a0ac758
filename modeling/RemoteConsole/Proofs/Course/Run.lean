import RemoteConsole.Proofs.Course.Step
import RemoteConsole.Proofs.Schedule.Next

/-!
# Whole runs

* `OnCourse c feed q σ`: the stream of a schedule is at a point, and its queue is in order.
* `OnCourse.next`: what comes next stays at the point and lowers a bound, or leads to the next
  point, unless the stream is over.
* `OnCourse.ahead`, `OnCourse.after`: so a schedule comes to every point that lies ahead, and to no
  other state.
* `Client.run_direct`: the whole run of a stream that fetches by itself.
* `Client.trace_offloaded`: a stream that fetches through a worker does the same.
-/

namespace RemoteConsole

open Schedule

variable {c : Client} {feed : Feed} {q q' : Point} {σ : Schedule} {k : Nat}

/-- The stream of the schedule is at a point. -/
structure OnCourse (c : Client) (feed : Feed) (q : Point) (σ : Schedule) : Prop where
  queued : Queued c.plan σ
  here : At c feed q σ.stream

/-- A bound for the steps of a schedule at one point. -/
def Schedule.bound (plan : Plan) (σ : Schedule) : Nat := 4 * σ.stream.rank + σ.backlog plan

/-- A stream that is over is at its last point. -/
theorem At.next_eq_none {s : Stream} (h : At c feed q s) (hover : s.isOver = true) :
    q.next feed c.options.backoff = none := by
  unfold Stream.isOver at hover
  cases h.place with
  | ready hstage => rw [hstage] at hover; cases hover
  | ordered hstage => rw [hstage] at hover; cases hover
  | waiting _ hstage => rw [hstage] at hover; cases hover
  | received h => rw [h.stage] at hover; cases hover
  | leaving hstage => rcases hstage with hstage | hstage <;> rw [hstage] at hover <;> cases hover
  | finished => rfl

theorem At.advance (hc : c.Served feed) {s s' : Stream} {t : Task} (h : At c feed q s)
    (hm : s.move c.plan t = some s') : Advances c feed q s s' := by
  cases t with
  | driver => exact h.driver hc hm
  | worker => exact h.worker hc hm

/-- What comes next, if the stream is not over. -/
theorem OnCourse.next (hc : c.Served feed) (h : OnCourse c feed q σ) :
    σ.IsDone c.plan ∨
    OnCourse c feed q (σ.next c.plan) ∧ (σ.next c.plan).bound c.plan < σ.bound c.plan ∨
    ∃ q', q.next feed c.options.backoff = some q' ∧ OnCourse c feed q' (σ.next c.plan) := by
  obtain ⟨hqueued, hat⟩ := h
  cases hstep : σ.step c.plan with
  | some σ' =>
    have hnext := next_of_step hstep
    obtain ⟨hqueued', hcase⟩ := step_cases hqueued hstep
    rw [hnext]
    have hbacklog := backlog_le hqueued'
    rcases hcase with ⟨t, hm⟩ | ⟨hturn, hlt⟩
    · rcases hat.advance hc hm with ⟨hat', hrank⟩ | ⟨q', hq', hat'⟩
      · refine .inr (.inl ⟨⟨hqueued', hat'⟩, ?_⟩)
        unfold bound
        omega
      · exact .inr (.inr ⟨q', hq', hqueued', hat'⟩)
    · refine .inr (.inl ⟨⟨hqueued', ?_⟩, ?_⟩)
      · rw [hturn]
        exact hat.turn
      · have hrank : σ'.stream.rank = σ.stream.rank := by rw [hturn]; rfl
        unfold bound
        omega
  | none =>
    obtain ⟨hbefore, hblocked⟩ := step_eq_none hqueued hstep
    have hd : σ.stream.moveDriver c.plan = none := hblocked .driver
    have hw : σ.stream.moveWorker c.plan = none := hblocked .worker
    rcases hat.clock hc hd hw with hover | ⟨t, hwake, hat', hrank, task, hmove⟩
    · exact .inl ⟨hstep, hover⟩
    · cases hover : σ.stream.isOver with
      | true => exact .inl ⟨hstep, hover⟩
      | false =>
        have hnext := next_of_wake hstep hover hwake
        have hstream := ofStream_stream c.plan (σ.stream.atTime t)
        have hafter := backlog_ofStream hmove
        rw [hnext]
        refine .inr (.inl ⟨⟨queued_ofStream c.plan _, ?_⟩, ?_⟩)
        · rw [hstream]
          exact hat'
        · unfold bound
          rw [hstream]
          omega

/-- The next point is reached. -/
theorem OnCourse.eventually (hc : c.Served feed) (h : OnCourse c feed q σ)
    (hq : q.next feed c.options.backoff = some q') :
    ∃ n, OnCourse c feed q' (after c.plan n σ) := by
  generalize hb : σ.bound c.plan = b
  induction b using Nat.strongRecOn generalizing σ with
  | _ b ih =>
    rcases h.next hc with hdone | ⟨hstay, hlt⟩ | ⟨q₁, hq₁, hto⟩
    · cases (h.here.next_eq_none hdone.2).symm.trans hq
    · obtain ⟨n, hn⟩ := ih _ (hb ▸ hlt) hstay rfl
      exact ⟨n + 1, hn⟩
    · cases hq₁.symm.trans hq
      exact ⟨1, hto⟩

/-- A stream at its last point comes to rest. -/
theorem OnCourse.done (hc : c.Served feed) (h : OnCourse c feed q σ)
    (hq : q.next feed c.options.backoff = none) :
    ∃ n, IsDone c.plan (after c.plan n σ) ∧ OnCourse c feed q (after c.plan n σ) := by
  generalize hb : σ.bound c.plan = b
  induction b using Nat.strongRecOn generalizing σ with
  | _ b ih =>
    rcases h.next hc with hdone | ⟨hstay, hlt⟩ | ⟨q₁, hq₁, -⟩
    · exact ⟨0, hdone, h⟩
    · obtain ⟨n, hdone, hn⟩ := ih _ (hb ▸ hlt) hstay rfl
      exact ⟨n + 1, hdone, hn⟩
    · cases hq.symm.trans hq₁

/-- Every point ahead is reached. -/
theorem OnCourse.ahead (hc : c.Served feed) (h : OnCourse c feed q σ)
    (hq : Point.Ahead feed c.options.backoff q q') :
    ∃ n, OnCourse c feed q' (after c.plan n σ) := by
  induction hq with
  | refl => exact ⟨0, h⟩
  | tail _ hnext ih =>
    obtain ⟨n, hn⟩ := ih
    obtain ⟨m, hm⟩ := hn.eventually hc hnext
    refine ⟨n + m, ?_⟩
    rw [after_add]
    exact hm

/-- Nothing but the points ahead is reached. -/
theorem OnCourse.after (hc : c.Served feed) (h : OnCourse c feed q σ) (n : Nat) :
    ∃ q', Point.Ahead feed c.options.backoff q q' ∧ OnCourse c feed q' (after c.plan n σ) := by
  induction n generalizing q σ with
  | zero => exact ⟨q, .refl, h⟩
  | succ n ih =>
    rcases h.next hc with hdone | ⟨hstay, -⟩ | ⟨q₁, hq₁, hto⟩
    · refine ⟨q, .refl, ?_⟩
      rw [hdone.after_eq]
      exact h
    · exact ih hstay
    · obtain ⟨q', hahead, hn⟩ := ih hto
      exact ⟨q', .head hq₁ hahead, hn⟩

/-! ## Starts -/

theorem onCourse_start {poller : Poller} {scene : Scene}
    (hr : Poller.Resting c.server feed 0 poller scene) (hrecord : scene.record = .empty) :
    OnCourse c feed .ready (ofStream c.plan (.ofOptions c.options poller scene)) := by
  refine ⟨queued_ofStream c.plan _, ?_⟩
  rw [ofStream_stream]
  refine ⟨.ready rfl rfl rfl rfl hr, ?_, rfl⟩
  show Trace.mk scene.record [] none = _
  rw [hrecord]
  rfl

theorem onCourse_direct (c : Client) (feed : Feed) :
    OnCourse c feed .ready
      (ofStream c.plan (.ofOptions c.options .direct (c.server.connect .empty).2)) :=
  onCourse_start (.direct (c.server.connect_calls .empty)) (c.server.connect_record .empty)

theorem onCourse_offloaded (hc : c.Served feed) :
    OnCourse c feed .ready (ofStream c.plan (.ofOptions c.options .pending .empty)) :=
  onCourse_start (.pending rfl hc.connects) rfl

theorem Point.next_underway {p : Backoff.Policy} (h : feed.isDelivered p k = true) :
    (Point.underway k).next feed p = some (.received k) :=
  congrArg some (if_pos h)

/-- As long as no outcome closes the stream, the next fetch lies ahead. -/
theorem Point.ahead_booked {p : Backoff.Policy} (hopen : ∀ i < k, feed.ending? p i = none) :
    Ahead feed p .ready (.booked k) := by
  induction k with
  | zero => exact .single rfl
  | succ k ih =>
    have hk := hopen k (Nat.lt_succ_self k)
    have hunderway : Ahead feed p .ready (.underway k) :=
      (ih fun i hi => hopen i (Nat.lt_succ_of_lt hi)).tail rfl
    by_cases hdelivered : feed.isDelivered p k = true
    · refine (hunderway.tail (next_underway hdelivered)).tail (congrArg some (if_neg ?_))
      rw [hk]
      exact Bool.false_ne_true
    · exact hunderway.tail (congrArg some (if_neg hdelivered))

/-- After the outcome that closes the stream, its end lies ahead. -/
theorem Point.ahead_finished {p : Backoff.Policy} {reason : CloseReason}
    (hopen : ∀ i < k, feed.ending? p i = none) (hending : feed.ending? p k = some reason) :
    Ahead feed p .ready (.finished k) := by
  have hunderway : Ahead feed p .ready (.underway k) := (ahead_booked hopen).tail rfl
  have hreceived : Ahead feed p .ready (.received k) :=
    hunderway.tail (next_underway (Feed.isDelivered_of_ending hending))
  have hleaving : Ahead feed p .ready (.leaving k) := by
    refine hreceived.tail (congrArg some (if_pos ?_))
    rw [hending]
    rfl
  exact hleaving.tail rfl

/-- A stream that an outcome closes comes to rest at its last point. -/
theorem OnCourse.finish (hc : c.Served feed) {reason : CloseReason}
    (h : OnCourse c feed .ready σ) (hopen : ∀ i < k, feed.ending? c.options.backoff i = none)
    (hending : feed.ending? c.options.backoff k = some reason) :
    ∃ n, IsDone c.plan (Schedule.after c.plan n σ) ∧
      OnCourse c feed (.finished k) (Schedule.after c.plan n σ) := by
  obtain ⟨n, hn⟩ := h.ahead hc (Point.ahead_finished hopen hending)
  obtain ⟨m, hdone, hm⟩ := hn.done hc rfl
  rw [← after_add] at hdone hm
  exact ⟨n + m, hdone, hm⟩

/-- A rehearsal of a stream that an outcome closes ends at its last point. -/
theorem OnCourse.rehearse (hc : c.Served feed) {s₀ : Stream} {reason : CloseReason}
    (h : OnCourse c feed .ready (ofStream c.plan s₀))
    (hopen : ∀ i < k, feed.ending? c.options.backoff i = none)
    (hending : feed.ending? c.options.backoff k = some reason) :
    ∃ s, s.trace = (Point.finished k).trace c feed ∧ ∃ bound, ∀ limit settleSteps steps,
      bound ≤ limit → bound ≤ settleSteps → bound ≤ steps → ∀ hasStream hasHandle,
        Rehearsal.runUntil c.plan limit settleSteps steps ⟨s₀, hasStream, hasHandle, []⟩ =
          (⟨s, hasStream, hasHandle, []⟩, .over) := by
  obtain ⟨n, hdone, hn⟩ := h.finish hc hopen hending
  exact ⟨_, hn.here.trace, Rehearsal.runUntil_of_after c.plan n s₀ hdone⟩

/-! ## Main statements -/

namespace Client

/-- The whole run of a stream that fetches by itself, when `k` is the first outcome that closes it.
The fetches begin as the feed has it, and there are none after the fetch `k`; the stream ends when
that fetch does, for the reason that its outcome gives. -/
theorem run_direct {isThreaded : Bool} {reason : CloseReason} (hc : c.Served feed)
    (hmode : c.options.offload.offloads isThreaded = false)
    (hopen : ∀ i < k, feed.ending? c.options.backoff i = none)
    (hending : feed.ending? c.options.backoff k = some reason) :
    ∃ s₀ scene, c.start isThreaded .empty = (.ok s₀, scene) ∧
      ∃ s bound, (∀ limit settleSteps steps,
          bound ≤ limit → bound ≤ settleSteps → bound ≤ steps →
          Rehearsal.runUntil c.plan limit settleSteps steps ⟨s₀, true, true, []⟩ =
            (⟨s, true, true, []⟩, .over)) ∧
        s.scene.begun = (List.range (k + 1)).map (feed.beginning c.options.backoff) ∧
        s.now = feed.arrival c.options.backoff k ∧ s.closed? = some reason := by
  refine ⟨_, _, hc.start_direct hmode, ?_⟩
  obtain ⟨s, htrace, bound, hrun⟩ := (onCourse_direct c feed).rehearse hc hopen hending
  refine ⟨s, bound, fun limit settleSteps steps hlimit hsettles hsteps =>
    hrun limit settleSteps steps hlimit hsettles hsteps true true, ?_, ?_⟩
  · have hbegun : s.scene.begun = (c.recordClosed feed k).begun := congrArg (·.record.begun) htrace
    rw [hbegun, List.range_succ, List.map_append]
    rfl
  · have hend : s.closed?.map (fun reason => (reason, s.now)) =
        (feed.ending? c.options.backoff k).map fun reason =>
          (reason, feed.arrival c.options.backoff k) := congrArg (·.ending) htrace
    rw [hending] at hend
    cases hclosed : s.closed? with
    | none => rw [hclosed] at hend; cases hend
    | some reason' =>
      rw [hclosed] at hend
      obtain ⟨hreason, hnow⟩ := Prod.mk.inj (Option.some.inj hend)
      exact ⟨hnow, congrArg some hreason⟩

/-- The short feed: a failure, which is retried after 256 milliseconds, a text, and the end. -/
theorem run_direct_brief :
    ∃ s₀ scene, (Feed.brief.client .never).start true .empty = (.ok s₀, scene) ∧
      ∃ s bound, (∀ limit settleSteps steps,
          bound ≤ limit → bound ≤ settleSteps → bound ≤ steps →
          Rehearsal.runUntil (Feed.brief.client .never).plan limit settleSteps steps
            ⟨s₀, true, true, []⟩ = (⟨s, true, true, []⟩, .over)) ∧
        s.scene.begun = [0, 259, 262] ∧ s.now = 265 ∧ s.closed? = some .serverClosed := by
  have hopen : ∀ i < 2, Feed.brief.ending? (Feed.brief.client .never).options.backoff i = none := by
    decide
  exact run_direct (Feed.brief.served_client .never) rfl hopen rfl

/-- A stream that fetches through a worker does what a stream does that fetches by itself: each of
them shows every trace that the other shows, and they end alike. -/
theorem trace_offloaded (isThreaded : Bool) (hc : c.Served feed) :
    ∃ s₁ s₂ scene₁ scene₂,
      (c.withOffload .never).start isThreaded .empty = (.ok s₁, scene₁) ∧
      (c.withOffload .always).start isThreaded .empty = (.ok s₂, scene₂) ∧
      (∀ n, ∃ m, (after c.plan m (ofStream c.plan s₂)).stream.trace =
        (after c.plan n (ofStream c.plan s₁)).stream.trace) ∧
      (∀ m, ∃ n, (after c.plan n (ofStream c.plan s₁)).stream.trace =
        (after c.plan m (ofStream c.plan s₂)).stream.trace) ∧
      ∀ k reason, (∀ i < k, feed.ending? c.options.backoff i = none) →
        feed.ending? c.options.backoff k = some reason →
        ∃ r₁ r₂, r₂.trace = r₁.trace ∧ ∃ bound, ∀ limit settleSteps steps,
          bound ≤ limit → bound ≤ settleSteps → bound ≤ steps →
          Rehearsal.runUntil c.plan limit settleSteps steps ⟨s₁, true, true, []⟩ =
              (⟨r₁, true, true, []⟩, .over) ∧
            Rehearsal.runUntil c.plan limit settleSteps steps ⟨s₂, true, true, []⟩ =
              (⟨r₂, true, true, []⟩, .over) := by
  have hnever : (c.withOffload .never).Served feed :=
    ⟨hc.valid, hc.retries, hc.orders, hc.events, hc.call, hc.connects, hc.hooks⟩
  have halways : (c.withOffload .always).Served feed :=
    ⟨hc.valid, hc.retries, hc.orders, hc.events, hc.call, hc.connects, hc.hooks⟩
  have hdirect := onCourse_direct (c.withOffload .never) feed
  have hoffloaded := onCourse_offloaded halways
  -- The trace at a point has nothing to do with where fetches run.
  have htrace : ∀ q : Point,
      q.trace (c.withOffload .always) feed = q.trace (c.withOffload .never) feed := by
    intro q
    cases q <;> rfl
  refine ⟨_, _, _, _, hnever.start_direct rfl, halways.start_offloaded rfl, fun n => ?_,
    fun m => ?_, fun k reason hopen hending => ?_⟩
  · obtain ⟨q, hahead, hn⟩ := hdirect.after hnever n
    obtain ⟨m, hm⟩ := hoffloaded.ahead halways hahead
    exact ⟨m, hm.here.trace.trans ((htrace q).trans hn.here.trace.symm)⟩
  · obtain ⟨q, hahead, hm⟩ := hoffloaded.after halways m
    obtain ⟨n, hn⟩ := hdirect.ahead hnever hahead
    exact ⟨n, hn.here.trace.trans ((htrace q).symm.trans hm.here.trace.symm)⟩
  · obtain ⟨r₁, htrace₁, bound₁, hrun₁⟩ := hdirect.rehearse hnever hopen hending
    obtain ⟨r₂, htrace₂, bound₂, hrun₂⟩ := hoffloaded.rehearse halways hopen hending
    refine ⟨r₁, r₂, htrace₂.trans ((htrace _).trans htrace₁.symm), bound₁ + bound₂,
      fun limit settleSteps steps hlimit hsettles hsteps => ⟨?_, ?_⟩⟩
    · exact hrun₁ limit settleSteps steps (by omega) (by omega) (by omega) true true
    · exact hrun₂ limit settleSteps steps (by omega) (by omega) (by omega) true true

/-- The short feed, with and without a worker. -/
theorem trace_offloaded_brief :
    ∃ s₁ s₂ scene₁ scene₂,
      ((Feed.brief.client .auto).withOffload .never).start false .empty = (.ok s₁, scene₁) ∧
      ((Feed.brief.client .auto).withOffload .always).start false .empty = (.ok s₂, scene₂) ∧
      ∃ r₁ r₂ bound, r₂.trace = r₁.trace ∧ ∀ limit settleSteps steps,
        bound ≤ limit → bound ≤ settleSteps → bound ≤ steps →
        Rehearsal.runUntil (Feed.brief.client .auto).plan limit settleSteps steps
            ⟨s₁, true, true, []⟩ = (⟨r₁, true, true, []⟩, .over) ∧
          Rehearsal.runUntil (Feed.brief.client .auto).plan limit settleSteps steps
            ⟨s₂, true, true, []⟩ = (⟨r₂, true, true, []⟩, .over) := by
  obtain ⟨s₁, s₂, scene₁, scene₂, hstart₁, hstart₂, -, -, hend⟩ :=
    trace_offloaded false (Feed.brief.served_client .auto)
  have hopen : ∀ i < 2, Feed.brief.ending? (Feed.brief.client .auto).options.backoff i = none := by
    decide
  obtain ⟨r₁, r₂, htrace, bound, hrun⟩ := hend 2 .serverClosed hopen rfl
  exact ⟨s₁, s₂, scene₁, scene₂, hstart₁, hstart₂, r₁, r₂, bound, htrace, hrun⟩

end Client

end RemoteConsole
