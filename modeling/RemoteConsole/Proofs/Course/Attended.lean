import RemoteConsole.Proofs.Course.Lull
import RemoteConsole.Proofs.Course.Timeline

/-!
# The health signal when fetches need not answer

* `Client.Attended c feed`: a client as in `Client.Served`, but some of its fetches may never
  answer. Its twin is the client all of whose fetches answer as the feed has it.
* `Beside c feed q σ σ'`: the schedule `σ'` of a client goes along with the schedule `σ` of its
  twin, which is at the point `q`: they are the same until a fetch never answers, and then the
  client waits for it. `Beside.next`: so it is after what comes next.
* `SoFar c feed alarms`: the alarms that there can be at any time.
* `Client.alarms_direct`: the timeline of the signal of a stream that fetches by itself.
-/

namespace RemoteConsole

open Schedule

variable {c : Client} {feed : Feed} {q q' : Point} {s : Stream} {σ σ' : Schedule} {i k : Nat}

/-- The fetch never answers. -/
def Server.IsSilent (server : Server) (n : Nat) : Prop := (server.call n).reply = .hang

/-- The client would be served by the feed if all its fetches answered, and each of them answers as
the feed has it or never. -/
structure Client.Attended (c : Client) (feed : Feed) : Prop where
  twin : (c.withCall feed.call).Served feed
  call : ∀ n, ¬ c.server.IsSilent n → c.server.call n = feed.call n

/-- A fetch that the twin serves in another way never answers. -/
theorem Client.Attended.silent_of_ne {n : Nat} (hc : c.Attended feed)
    (h : feed.call n ≠ c.server.call n) : c.server.IsSilent n := by
  by_contra hanswers
  exact h (hc.call n hanswers).symm

theorem Server.not_silent_of_eq {server : Server} {n : Nat} (h : feed.call n = server.call n) :
    ¬ server.IsSilent n := by
  unfold IsSilent
  rw [← h]
  exact nofun

/-! ## Points and their fetches -/

theorem Poller.Resting.calls_eq {server : Server} {n : Nat} {scene : Scene}
    (h : Resting server feed n .direct scene) : scene.calls = n := by
  cases h with
  | direct hs => exact hs

theorem Poller.Polling.calls_eq {server : Server} {n : Nat} {duty : Duty} {poll : Poll}
    {scene : Scene} (h : Polling server feed n duty .direct poll scene) :
    scene.calls = (duty.point n).begun := by
  cases h with
  | fresh hr => exact hr.calls_eq
  | delaying hs | fetching hs => exact hs

/-- A stream that fetches by itself has asked for the fetches that have begun at its point. -/
theorem At.calls_eq (h : At c feed q s) (hdirect : s.poller = .direct)
    (hq : ∀ i, q ≠ .finished i) : s.scene.calls = q.begun := by
  cases h.place with
  | ready _ _ _ _ hr | ordered _ _ _ _ _ hr | leaving _ _ _ _ hr =>
    rw [hdirect] at hr
    exact hr.calls_eq
  | received h =>
    have hr := h.resting
    rw [hdirect] at hr
    exact hr.calls_eq
  | waiting hpoint _ _ _ _ _ hp =>
    rw [hdirect] at hp
    rw [hpoint]
    exact hp.calls_eq
  | finished => exact absurd rfl (hq _)

/-- A fetch is about to begin. -/
theorem At.booked_of_begins {poll : Poll} (h : At c feed q s) (hdirect : s.poller = .direct)
    (hstage : s.stage = .waiting poll) (hbegins : poll.Begins s.now) :
    q = .booked s.scene.calls ∧ ∀ j < s.scene.calls, feed.ending? c.options.backoff j = none := by
  cases h.place with
  | waiting hpoint hstage' hopen _ _ _ hp =>
    cases hstage.symm.trans hstage'
    rw [hdirect] at hp
    cases hp with
    | fresh hr =>
      obtain rfl := hr.calls_eq
      exact ⟨hpoint, hopen⟩
    | delaying hs =>
      obtain rfl := hs
      exact ⟨hpoint, hopen⟩
    | fetching => cases hbegins
  | ready hstage' | ordered hstage' | finished hstage' => cases hstage.symm.trans hstage'
  | received h => cases hstage.symm.trans h.stage
  | leaving hstage' => rcases hstage' with hstage' | hstage' <;> cases hstage.symm.trans hstage'

namespace Point

variable {p : Backoff.Policy}

/-- Only a fetch that is begun adds to the fetches of a point. -/
theorem begun_next (h : q.next feed p = some q') :
    q'.begun = q.begun ∨ q = .booked q.begun ∧ q' = .underway q.begun := by
  cases q with
  | ready | leaving => cases h; exact .inl rfl
  | booked i => cases h; exact .inr ⟨rfl, rfl⟩
  | underway i | received i =>
    rw [next] at h
    split at h <;> cases h <;> exact .inl rfl
  | finished => cases h

theorem begun_le (h : q' = q ∨ q.next feed p = some q') : q.begun ≤ q'.begun := by
  rcases h with rfl | h
  · exact Nat.le_refl _
  · rcases begun_next h with heq | ⟨-, rfl⟩
    · omega
    · exact Nat.le_succ _

/-- The outcomes before the one that the point is about. -/
def before : Point → Nat
  | .ready => 0
  | .booked i => i
  | .underway i => i
  | .received i => i
  | .leaving i => i
  | .finished i => i

/-- A stream that has come to a point was left open before. -/
theorem Ahead.isOpen (h : Ahead feed p .ready q) : ∀ j < q.before, feed.ending? p j = none := by
  induction h with
  | refl => exact fun j hj => absurd hj (Nat.not_lt_zero j)
  | @tail q q' _ hnext ih =>
    cases q with
    | ready => cases hnext; exact fun j hj => absurd hj (Nat.not_lt_zero j)
    | booked | leaving => cases hnext; exact ih
    | finished => cases hnext
    | underway i =>
      rw [next] at hnext
      split at hnext <;> cases hnext
      · exact ih
      · next hdelivered =>
        refine Feed.open_succ ih ?_
        by_contra hending
        obtain ⟨reason, hreason⟩ := Option.ne_none_iff_exists'.mp hending
        exact hdelivered (Feed.isDelivered_of_ending hreason)
    | received i =>
      rw [next] at hnext
      split at hnext <;> cases hnext
      · exact ih
      · next hopen => exact Feed.open_succ ih (Option.not_isSome_iff_eq_none.mp hopen)

end Point

/-! ## A client beside its twin -/

/-- A stream that waits for an outcome begins a fetch that never answers. -/
theorem Watching.lull (h : Watching (c.withCall feed.call) feed false k s)
    (hopen : s.closeWanted = false) (hsilent : c.server.IsSilent s.scene.calls) :
    Lull c feed k (s.withPoll (Poller.beginFetch c.plan.server s.now .direct s.scene)) := by
  obtain ⟨⟨hquiet, harming, henabled, hdebounce, hmode⟩, hsignal⟩ := h
  refine ⟨⟨hquiet, harming, henabled, hdebounce, rfl⟩, rfl, hopen,
    ⟨s.now + (c.server.call s.scene.calls).latency, ?_⟩, ?_⟩
  · unfold Server.IsSilent at hsilent
    rw [← hsilent]
    rfl
  · cases hsignal with
    | down hdown hdeadline hahead halarms =>
      refine .down hdown hdeadline (fun d hd => (hahead d hd).1) ?_
      rw [← Feed.alarms_eq_timeline]
      exact halarms
    | up hup hdeadline hrings halarms =>
      refine .up hup hdeadline ?_
      rw [← Feed.alarms_eq_timeline]
      exact halarms

/-- The schedule of a client beside the schedule of its twin: they are the same, or the client waits
for a fetch that never answers, which the twin has begun as well. -/
inductive Beside (c : Client) (feed : Feed) (q : Point) (σ : Schedule) : Schedule → Prop
  | same (hanswered : ∀ j < q.begun, ¬ c.server.IsSilent j) (hdirect : σ.stream.poller = .direct) :
      Beside c feed q σ σ
  | silent {σ' : Schedule} {k : Nat} (hk : k < q.begun) (hsilent : c.server.IsSilent k)
      (hanswered : ∀ j < k, ¬ c.server.IsSilent j)
      (hopen : ∀ j < k, feed.ending? c.options.backoff j = none)
      (hlull : Lull c feed k σ'.stream) (hqueued : Queued c.plan σ') : Beside c feed q σ σ'

/-- What comes next leaves a client beside its twin. -/
theorem Beside.next (hc : c.Attended feed)
    (hw : OnWatch (c.withCall feed.call) feed false q σ)
    (hq : q' = q ∨ q.next feed c.options.backoff = some q')
    (hcourse : OnCourse (c.withCall feed.call) feed q' (σ.next (c.withCall feed.call).plan))
    (h : Beside c feed q σ σ') :
    Beside c feed q' (σ.next (c.withCall feed.call).plan) (σ'.next c.plan) := by
  have hmono := Point.begun_le hq
  cases h with
  | silent hk hsilent hanswered hopen hlull hqueued =>
    obtain ⟨hlull', hqueued', -⟩ := hlull.next hqueued
    exact .silent (by omega) hsilent hanswered hopen hlull' hqueued'
  | same hanswered hdirect =>
    have hhere := hw.course.here
    have hdirect' : (σ.next (c.withCall feed.call).plan).stream.poller = .direct :=
      (Stream.calls_reach (reach_next _ σ)).2 hdirect
    rcases next_cases c.plan feed.call hdirect hhere.closeWanted with
      ⟨heq, hagree⟩ | ⟨hhead, poll, hstage, hbegins, hne⟩
    · rw [Client.plan_withCall, heq] at hcourse hdirect' ⊢
      refine .same (fun j hj => ?_) hdirect'
      by_cases hold : j < q.begun
      · exact hanswered j hold
      · -- The fetch began just now, and both servers answer it.
        rcases hq with rfl | hq
        · exact absurd hj hold
        · rcases Point.begun_next hq with hsame | ⟨hbooked, hunderway⟩
          · exact absurd (hsame ▸ hj) hold
          · have hcalls := hhere.calls_eq hdirect (by rw [hbooked]; exact nofun)
            have hcalls' := hcourse.here.calls_eq hdirect' (by rw [hunderway]; exact nofun)
            have hbegun : q'.begun = q.begun + 1 := by rw [hunderway]; rfl
            have hanswers := Server.not_silent_of_eq (hagree (by omega))
            rw [hcalls] at hanswers
            obtain rfl : j = q.begun := by omega
            exact hanswers
    · obtain ⟨rfl, hopen⟩ := hhere.booked_of_begins hdirect hstage hbegins
      have hsilent := hc.silent_of_ne hne
      have hqueued : Queued c.plan σ :=
        queued_withCall hdirect hhere.closeWanted hw.course.queued
      have hstep := step_of_begins c.plan hdirect hhere.closeWanted hhead hstage hbegins
      have hlull := Watching.lull hw.vigil hhere.closeWanted hsilent
      -- The twin begins the fetch, too.
      have htwin : q' = .underway σ.stream.scene.calls := by
        have hnext := next_of_step (step_of_begins (c.withCall feed.call).plan hdirect
          hhere.closeWanted hhead hstage hbegins)
        rcases hq with rfl | hq
        · have hcalls := hcourse.here.calls_eq hdirect' nofun
          rw [hnext] at hcalls
          exact absurd hcalls (Nat.succ_ne_self _)
        · exact (Option.some.inj hq).symm
      rw [next_of_step hstep]
      refine .silent ?_ hsilent hanswered hopen hlull (step_cases hqueued hstep).1
      rw [htwin]
      exact Nat.lt_succ_self _

/-- Whatever the twin comes to, the client is beside it. -/
theorem Beside.after (hc : c.Attended feed)
    (hw : OnWatch (c.withCall feed.call) feed false q σ) (h : Beside c feed q σ σ') (n : Nat) :
    ∃ q', Point.Ahead feed c.options.backoff q q' ∧
      OnWatch (c.withCall feed.call) feed false q'
        (Schedule.after (c.withCall feed.call).plan n σ) ∧
      Beside c feed q' (Schedule.after (c.withCall feed.call).plan n σ)
        (Schedule.after c.plan n σ') := by
  induction n generalizing q σ σ' with
  | zero => exact ⟨q, .refl, hw, h⟩
  | succ n ih =>
    obtain ⟨q₁, hq, hcourse⟩ := hw.course.next_point hc.twin
    obtain ⟨q₂, hw₂⟩ := hw.next hc.twin
    obtain rfl := hw₂.course.here.unique hcourse.here
    obtain ⟨q', hahead, hw', h'⟩ := ih hw₂ (h.next hc hw hq hcourse)
    refine ⟨q', ?_, hw', h'⟩
    rcases hq with rfl | hq
    · exact hahead
    · exact .head hq hahead

/-- As long as all fetches answer, the client does what its twin does. -/
theorem Beside.eq (h : Beside c feed q σ σ') (hanswered : ∀ j < q.begun, ¬ c.server.IsSilent j) :
    σ' = σ := by
  cases h with
  | same => rfl
  | silent hk hsilent => exact absurd hsilent (hanswered _ hk)

/-- A client waits for the first fetch that never answers once its twin has begun it. -/
theorem Beside.lull (h : Beside c feed q σ σ') (hk : k < q.begun)
    (hanswered : ∀ j < k, ¬ c.server.IsSilent j) (hsilent : c.server.IsSilent k) :
    Lull c feed k σ'.stream ∧ Queued c.plan σ' := by
  cases h with
  | same hall => exact absurd hsilent (hall k hk)
  | @silent _ k' hk' hsilent' hanswered' hopen hlull hqueued =>
    rcases Nat.lt_trichotomy k' k with hlt | rfl | hlt
    · exact absurd hsilent' (hanswered k' hlt)
    · exact ⟨hlull, hqueued⟩
    · exact absurd hsilent (hanswered' k hlt)

/-! ## What the signal has done so far -/

/-- The alarms that there can be at some time: those of the attempts that the first `i` outcomes
have ended, and perhaps the one for the attempt that is pending. -/
inductive SoFar (c : Client) (feed : Feed) : List (Nat × Bool) → Prop
  | ended {i : Nat} (hanswered : ∀ j < i, ¬ c.server.IsSilent j)
      (hopen : ∀ j, j + 1 < i → feed.ending? c.options.backoff j = none) :
      SoFar c feed (feed.timeline c.options i)
  | pending {i a : Nat} (hanswered : ∀ j < i, ¬ c.server.IsSilent j)
      (hopen : ∀ j < i, feed.ending? c.options.backoff j = none)
      (hanchor : feed.anchor? c.options i = some a)
      (hearly : ¬ c.server.IsSilent i →
        a + c.options.health.debounceMs.toNat < feed.arrival c.options.backoff i) :
      SoFar c feed
        (feed.timeline c.options i ++ [(a + c.options.health.debounceMs.toNat, true)])

theorem Watching.soFar (h : Watching (c.withCall feed.call) feed false i s)
    (hanswered : ∀ j < i, ¬ c.server.IsSilent j)
    (hopen : ∀ j < i, feed.ending? c.options.backoff j = none) : SoFar c feed s.alarms := by
  cases h.signal with
  | down hdown hdeadline hahead halarms =>
    rw [halarms, Feed.alarms_eq_timeline]
    exact .ended hanswered fun j hj => hopen j (by omega)
  | up hup hdeadline hrings halarms =>
    obtain ⟨a, hanchor, rfl⟩ := Feed.exists_anchor hdeadline
    rw [halarms, Feed.alarms_eq_timeline]
    exact .pending hanswered hopen hanchor fun _ => hrings.resolve_right nofun

theorem Lull.soFar (h : Lull c feed k s) (hsilent : c.server.IsSilent k)
    (hanswered : ∀ j < k, ¬ c.server.IsSilent j)
    (hopen : ∀ j < k, feed.ending? c.options.backoff j = none) : SoFar c feed s.alarms := by
  cases h.hush with
  | down hdown hdeadline hahead halarms =>
    rw [halarms]
    exact .ended hanswered fun j hj => hopen j (by omega)
  | up hup hdeadline halarms =>
    obtain ⟨a, hanchor, rfl⟩ := Feed.exists_anchor hdeadline
    rw [halarms]
    exact .pending hanswered hopen hanchor fun hanswers => absurd hsilent hanswers

/-- What the signal of a stream has done at its point. -/
theorem Vigil.soFar (h : Vigil (c.withCall feed.call) feed false q s)
    (hanswered : ∀ j < q.begun, ¬ c.server.IsSilent j)
    (hopen : ∀ j < q.before, feed.ending? c.options.backoff j = none) : SoFar c feed s.alarms := by
  cases q with
  | ready =>
    rw [h.2.2.2]
    exact .ended (i := 0) hanswered nofun
  | booked i => exact h.soFar hanswered hopen
  | underway i => exact h.soFar (fun j hj => hanswered j (Nat.lt_succ_of_lt hj)) hopen
  | received i =>
    have halarms := h.2.alarms
    rw [Feed.alarms_eq_timeline] at halarms
    split at halarms
    · -- The signal goes down at the end, which is to come.
      obtain ⟨j, hj, a, hanchor, hearly, heq⟩ := Feed.timeline_before_down halarms
      have hanswered' : ∀ n < j, ¬ c.server.IsSilent n := fun n hn =>
        hanswered n (Nat.lt_trans hn hj)
      have hopen' : ∀ n < j, feed.ending? c.options.backoff n = none := fun n hn =>
        hopen n (Nat.lt_of_lt_of_le hn (Nat.le_of_lt_succ hj))
      rw [heq]
      exact .pending hanswered' hopen' hanchor fun _ => hearly
    · rw [List.append_nil] at halarms
      rw [halarms]
      exact .ended hanswered fun j hj => hopen j (Nat.lt_of_succ_lt_succ hj)
  | leaving i | finished i =>
    rw [show s.alarms = _ from h, Feed.alarms_eq_timeline]
    exact .ended hanswered fun j hj => hopen j (Nat.lt_of_succ_lt_succ hj)

theorem Beside.soFar (hw : OnWatch (c.withCall feed.call) feed false q σ)
    (hahead : Point.Ahead feed c.options.backoff .ready q) (h : Beside c feed q σ σ') :
    SoFar c feed σ'.stream.alarms := by
  cases h with
  | same hanswered => exact hw.vigil.soFar hanswered hahead.isOpen
  | silent hk hsilent hanswered hopen hlull => exact hlull.soFar hsilent hanswered hopen

/-- Without a failure the signal has done nothing, unless every poll is the beginning of an
attempt. -/
theorem SoFar.eq_nil {alarms : List (Nat × Bool)} (h : SoFar c feed alarms)
    (harming : c.options.health.arming = .onFailure)
    (hok : ∀ j, ¬ c.server.IsSilent j → ∃ chunk, feed.answer j = .ok chunk) : alarms = [] := by
  cases h with
  | ended hanswered => exact Feed.timeline_eq_nil harming fun j hj => hok j (hanswered j hj)
  | pending hanswered hopen hanchor =>
    cases hanchor.symm.trans
      (Feed.anchor?_eq_none harming fun j hj => hok j (hanswered j hj))

/-! ## Main statement -/

theorem At.closed?_eq {reason : CloseReason} (h : At c feed (.finished k) s)
    (hending : feed.ending? c.options.backoff k = some reason) : s.closed? = some reason := by
  cases h.place with
  | @waiting _ _ duty _ _ hq => cases duty <;> cases hq
  | finished hstage _ hending' =>
    unfold Stream.closed?
    rw [hstage, ← hending, hending']

/-- A stream that fetches by itself is about to start, and so is its twin's. -/
theorem Client.Attended.start (hc : c.Attended feed) {isThreaded : Bool}
    (hmode : c.options.offload.offloads isThreaded = false) :
    ∃ s₀ scene, c.start isThreaded .empty = (.ok s₀, scene) ∧
      OnWatch (c.withCall feed.call) feed false .ready (ofStream c.plan s₀) ∧
      Beside c feed .ready (ofStream c.plan s₀) (ofStream c.plan s₀) := by
  refine ⟨_, _, hc.twin.start_direct hmode, ?_, .same nofun ?_⟩
  · have hwatch := OnWatch.start (onCourse_direct (c.withCall feed.call) feed)
    rw [Client.plan_withCall, ofStream_withCall rfl rfl] at hwatch
    exact hwatch
  · rw [ofStream_stream]
    rfl

/-- An alarm is never taken back. -/
theorem Schedule.alarms_prefix (plan : Plan) (σ : Schedule) {m n : Nat} (h : m ≤ n) :
    (after plan m σ).stream.alarms <+: (after plan n σ).stream.alarms := by
  obtain ⟨d, rfl⟩ := Nat.exists_eq_add_of_le h
  rw [after_add]
  exact (Stream.published_reach (reach_after plan d (after plan m σ))).filterMap _

/-- The timeline of the health signal of a stream that fetches by itself. At any time it has gone up
and down for the attempts that have ended, and perhaps up for the one that is pending, and nothing
of this is taken back. After an outcome that ends an attempt, at the end of the stream, and while a
fetch never answers, it has done all that the spells of the feed say. Without a failure it does
nothing, unless every poll is the beginning of an attempt, and later failures do not move the
beginning of an attempt. -/
theorem Client.alarms_direct {isThreaded : Bool} (hc : c.Attended feed)
    (hmode : c.options.offload.offloads isThreaded = false) :
    ∃ s₀ scene, c.start isThreaded .empty = (.ok s₀, scene) ∧
      (∀ n, SoFar c feed (after c.plan n (ofStream c.plan s₀)).stream.alarms) ∧
      (∀ m n, m ≤ n → (after c.plan m (ofStream c.plan s₀)).stream.alarms <+:
        (after c.plan n (ofStream c.plan s₀)).stream.alarms) ∧
      (∀ i, (∀ j < i, feed.ending? c.options.backoff j = none) →
        (∀ j ≤ i, ¬ c.server.IsSilent j) → feed.isDelivered c.options.backoff i = true →
        ∃ n, (after c.plan n (ofStream c.plan s₀)).stream.alarms =
          feed.timeline c.options (i + 1)) ∧
      (∀ k reason, (∀ j < k, feed.ending? c.options.backoff j = none) →
        (∀ j ≤ k, ¬ c.server.IsSilent j) → feed.ending? c.options.backoff k = some reason →
        ∃ m, ∀ n, m ≤ n →
          (after c.plan n (ofStream c.plan s₀)).stream.closed? = some reason ∧
          (after c.plan n (ofStream c.plan s₀)).stream.alarms =
            feed.timeline c.options (k + 1)) ∧
      (∀ k, (∀ j < k, feed.ending? c.options.backoff j = none) →
        (∀ j < k, ¬ c.server.IsSilent j) → c.server.IsSilent k →
        ∃ m, ∀ n, m ≤ n → (after c.plan n (ofStream c.plan s₀)).stream.alarms =
          feed.timeline c.options k ++ feed.spellAt c.options k none) ∧
      (c.options.health.arming = .onFailure →
        (∀ j, ¬ c.server.IsSilent j → ∃ chunk, feed.answer j = .ok chunk) →
        ∀ n, (after c.plan n (ofStream c.plan s₀)).stream.alarms = []) ∧
      ∀ i e a, feed.answer i = .error e → feed.anchor? c.options i = some a →
        feed.anchor? c.options (i + 1) = some a := by
  obtain ⟨s₀, scene, hstart, hwatch, hbeside⟩ := hc.start hmode
  have hsoFar : ∀ n, SoFar c feed (after c.plan n (ofStream c.plan s₀)).stream.alarms := by
    intro n
    obtain ⟨q, hahead, hw, h⟩ := hbeside.after hc hwatch n
    exact h.soFar hw hahead
  -- At a point at which all fetches have answered, the client is where its twin is.
  have hsame : ∀ {i n q}, (∀ j ≤ i, ¬ c.server.IsSilent j) → q.begun = i + 1 →
      OnCourse (c.withCall feed.call) feed q
        (after (c.withCall feed.call).plan n (ofStream c.plan s₀)) →
      after c.plan n (ofStream c.plan s₀) =
        after (c.withCall feed.call).plan n (ofStream c.plan s₀) := by
    intro i n q hanswered hbegun hcourse
    obtain ⟨q', -, hw, h⟩ := hbeside.after hc hwatch n
    obtain rfl := hw.course.here.unique hcourse.here
    exact h.eq fun j hj => hanswered j (by omega)
  refine ⟨s₀, scene, hstart, hsoFar, fun m n => alarms_prefix c.plan _,
    fun i hopen hanswered hdelivered => ?_, fun k reason hopen hanswered hending => ?_,
    fun k hopen hanswered hsilent => ?_, fun harming hok n => (hsoFar n).eq_nil harming hok,
    fun i e a he => Feed.anchor?_error he⟩
  · obtain ⟨n, q, hbegun, hcourse, halarms⟩ := hwatch.settles_at hc.twin hopen hdelivered
    rw [Feed.alarms_eq_timeline] at halarms
    exact ⟨n, (congrArg (·.stream.alarms) (hsame hanswered hbegun hcourse)).trans halarms⟩
  · obtain ⟨m, hdone, hm⟩ := hwatch.course.finish hc.twin hopen hending
    refine ⟨m, fun n hn => ?_⟩
    obtain ⟨d, rfl⟩ := Nat.exists_eq_add_of_le hn
    have hstays := after_add (c.withCall feed.call).plan m d (ofStream c.plan s₀)
    rw [hdone.after_eq] at hstays
    have hcourse := hm
    rw [← hstays] at hcourse
    have hvigil := hwatch.after hc.twin hcourse
    rw [hsame hanswered rfl hcourse]
    exact ⟨hcourse.here.closed?_eq hending, Eq.trans hvigil (Feed.alarms_eq_timeline _)⟩
  · have hunderway : Point.Ahead feed c.options.backoff .ready (.underway k) :=
      (Point.ahead_booked hopen).tail rfl
    obtain ⟨n, hcourse⟩ := hwatch.course.ahead hc.twin hunderway
    obtain ⟨q, -, hw, h⟩ := hbeside.after hc hwatch n
    obtain rfl := hw.course.here.unique hcourse.here
    obtain ⟨hlull, hqueued⟩ := h.lull (Nat.lt_succ_self k) hanswered hsilent
    obtain ⟨m, hrest⟩ := hlull.comes_to_rest hqueued
    refine ⟨n + m, fun n' hn' => ?_⟩
    obtain ⟨d, rfl⟩ := Nat.exists_eq_add_of_le hn'
    rw [Nat.add_assoc, after_add]
    exact hrest (m + d) (Nat.le_add_right m d)

/-- The client of the short feed, but its second fetch never answers. -/
def Client.stalled : Client :=
  (Feed.brief.client .never).withCall fun n =>
    if n = 1 then ⟨0, .hang⟩ else Feed.brief.call n

/-- The short feed without its text: the signal goes up for good a second after the failure. -/
theorem Client.alarms_direct_brief :
    ∃ s₀ scene, Client.stalled.start true .empty = (.ok s₀, scene) ∧ ∃ m, ∀ n, m ≤ n →
      (after Client.stalled.plan n (ofStream Client.stalled.plan s₀)).stream.alarms =
        [(1003, true)] := by
  have hattended : Client.stalled.Attended Feed.brief := by
    refine ⟨Feed.brief.served_client .never, fun n hanswers => if_neg fun hn => ?_⟩
    subst hn
    exact hanswers rfl
  have hopen : ∀ j < 1,
      Feed.brief.ending? Client.stalled.options.backoff j = none := by decide
  have hanswered : ∀ j < 1, ¬ Client.stalled.server.IsSilent j := by
    intro j hj
    obtain rfl := Nat.lt_one_iff.mp hj
    exact nofun
  obtain ⟨s₀, scene, hstart, -, -, -, -, hstalls, -⟩ := Client.alarms_direct hattended rfl
  obtain ⟨m, halarms⟩ := hstalls 1 hopen hanswered rfl
  exact ⟨s₀, scene, hstart, m, fun n hn => (halarms n hn).trans (by decide +kernel)⟩

end RemoteConsole
