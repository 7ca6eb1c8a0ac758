import RemoteConsole.Proofs.Lifecycle.Streak
import RemoteConsole.Proofs.Poller.Onset
import RemoteConsole.Proofs.Stream.Patience
import RemoteConsole.Proofs.Stream.Protocol

/-!
# Fetches after a failure

* `Stream.Announced`: an event that a step publishes: only a failure that is taken announces a
  retry. `announced_step`: it is so for every step.
* `Stream.Held`: the stream begins no fetch before `T`. `Held.step`, `Held.reach`: it keeps to it,
  also when it is closed and its worker goes on.
* `Stream.Spaced`: a stream is held for every delay that it has announced, and took a failure for
  it. `Spaced.step`: every step keeps it.
* `Backoff.Policy.nextDelay_pos_iff`: a delay is none if and only if the unit is none.
* `Stream.retries_spaced`: between a failure and the next fetch lies the delay that was announced,
  and it is not zero as long as the unit is not. Nothing else keeps it from zero: `retry_unspaced`.
-/

namespace RemoteConsole

/-- A delay is none if and only if the unit is none. -/
theorem Backoff.Policy.nextDelay_pos_iff {p : Policy} {step next : UInt32} {delay : Nat}
    (h : p.nextDelay step = .ok (delay, next)) : 1 ≤ delay ↔ p.unitMs ≠ 0 := by
  unfold nextDelay at h
  split at h
  · cases h
  · dsimp only at h
    split at h
    · cases h
    · cases h
      have hunits : 1 ≤ units (p.clamp step) := by
        unfold units
        split
        · exact Nat.one_le_two_pow
        · decide
      have hunit : p.unitMs ≠ 0 ↔ 1 ≤ p.unitMs.toNat := by
        rw [Nat.one_le_iff_ne_zero, not_iff_not]
        exact UInt64.toNat_inj.symm
      have hlongest : 1 ≤ longestDelay := by decide
      unfold delay
      rw [hunit, Nat.le_min]
      exact ⟨fun h => Nat.pos_of_mul_pos_left h.1, fun h => ⟨Nat.mul_le_mul hunits h, hlongest⟩⟩

theorem Backoff.Controller.nextDelay_pos_iff {c c' : Controller} {delay : Nat}
    (h : c.nextDelay = .ok (delay, c')) : 1 ≤ delay ↔ c.policy.unitMs ≠ 0 := by
  unfold nextDelay at h
  cases hnext : c.policy.nextDelay c.step with
  | error fault => rw [hnext] at h; cases h
  | ok next =>
    rw [hnext] at h
    cases h
    exact Policy.nextDelay_pos_iff hnext

theorem Event.delay_eq_zero {e : Event} (h : e.isRetry = false) : e.delay = 0 := by
  cases e with
  | retryScheduled => cases h
  | phaseChanged | healthChanged | closed => rfl

namespace Stream

variable {plan : Plan} {T T' : Nat} {s s' : Stream}

/-! ## What is announced -/

/-- An event that a step publishes: it announces no retry, or it announces the retry after a failure
that the step takes, with the delay with which the stream goes on. -/
inductive Announced (s s' : Stream) : Event → Prop
  | other {event : Event} (h : event.isRetry = false) : Announced s s' event
  | retry {e : FetchError} {delay : Nat} {backoff : Backoff.Controller}
      (hnext : s.lifecycle.backoff.nextDelay = .ok (delay, backoff))
      (hconsumed : s'.consumed = s.consumed ++ [(s.now, .error e)])
      (hreason : s'.lifecycle.closeReason = none)
      (hstage : s'.stage = .executing (.fetch delay)) :
      Announced s s' (.retryScheduled delay s.lifecycle.backoff.step e.code)

/-- A step that publishes nothing. -/
theorem announced_none (h : s'.published = s.published) :
    ∃ new, s'.published = s.published ++ new ∧
      ∀ p ∈ new, p.time = s.now ∧ Announced s s' p.event :=
  ⟨[], by rw [h, List.append_nil], nofun⟩

/-- A step by which the lifecycle moves on publishes the events of the lifecycle. -/
theorem announced_proceed {s₁ : Stream} {l : Lifecycle} {command : Command}
    (hpublished : s₁.published = s.published) (hnow : s₁.now = s.now)
    (h : ∀ event ∈ l.events, Announced s (s₁.proceed (l, command)) event) :
    ∃ new, (s₁.proceed (l, command)).published = s.published ++ new ∧
      ∀ p ∈ new, p.time = s.now ∧ Announced s (s₁.proceed (l, command)) p.event := by
  refine ⟨_, congrArg (· ++ _) hpublished, fun p hp => ?_⟩
  obtain ⟨event, hevent, rfl⟩ := List.mem_map.mp hp
  exact ⟨hnow, h event hevent⟩

/-- A step by which the lifecycle moves on without announcing a retry. -/
theorem announced_quiet {s₁ : Stream} {l : Lifecycle} {command : Command}
    (hpublished : s₁.published = s.published) (hnow : s₁.now = s.now)
    (h : l.events.countP Event.isRetry = 0) :
    ∃ new, (s₁.proceed (l, command)).published = s.published ++ new ∧
      ∀ p ∈ new, p.time = s.now ∧ Announced s (s₁.proceed (l, command)) p.event :=
  announced_proceed hpublished hnow fun event hevent =>
    .other (Bool.eq_false_iff.mpr (List.countP_eq_zero.mp h event hevent))

/-- An outcome is taken. -/
theorem announced_consume {p : Poller.State} {o : Outcome} (hquiet : s.lifecycle.events = [])
    (hphase : s.lifecycle.phase = .polling) (hreason : s.lifecycle.closeReason = none) :
    ∃ new, ((s.withPoll p).consume o).published = s.published ++ new ∧
      ∀ q ∈ new, q.time = s.now ∧ Announced s ((s.withPoll p).consume o) q.event := by
  rcases (s.withPoll p).consume_cases o with ⟨l, command, hr, heq⟩ | ⟨l, fault, hr, heq⟩
  · rw [heq]
    have hevents : (s.withPoll p).lifecycle.events = [] := hquiet
    cases hr with
    | ignored hi => simp [withPoll, Input.isHeard, hphase] at hi
    | brought =>
      refine announced_quiet rfl rfl ?_
      rw [hevents, List.nil_append, List.countP_append, Lifecycle.countP_calmed]
      rfl
    | failedLast =>
      refine announced_quiet rfl rfl ?_
      rw [hevents]
      rfl
    | retried _ _ _ hnext =>
      refine announced_proceed rfl rfl fun event hevent => ?_
      rw [hevents] at hevent
      simp only [List.nil_append, List.mem_cons, List.not_mem_nil, or_false] at hevent
      rcases hevent with rfl | rfl | rfl
      · exact .other rfl
      · exact .retry hnext rfl hreason rfl
      · exact .other rfl
  · rw [heq]
    exact announced_none rfl

/-- What is announced when a delivery is reported. -/
theorem announced_deliver (hquiet : s.lifecycle.events = []) (chunk : Option Chunk) :
    ∃ new, (s.deliver plan chunk).published = s.published ++ new ∧
      ∀ p ∈ new, p.time = s.now ∧ Announced s (s.deliver plan chunk) p.event := by
  rcases deliver_cases plan s chunk with ⟨d, flow, l, command, hr, -, heq⟩ | ⟨d, heq⟩
  · rw [heq]
    have hevents : (s.afterDelivery d).lifecycle.events = [] := hquiet
    refine announced_quiet rfl rfl ?_
    cases hr with
    | ignored => rw [hevents]; rfl
    | continued => rw [hevents]; rfl
    | closed =>
      rw [hevents, List.nil_append, List.countP_append, Lifecycle.countP_calmed]
      rfl
  · rw [heq]
    exact announced_none rfl

theorem announced_driver (hquiet : s.stage ≠ .crashed → s.lifecycle.events = [])
    (ho : s.IsOrderly) (hm : DriverMove plan s s') :
    ∃ new, s'.published = s.published ++ new ∧
      ∀ p ∈ new, p.time = s.now ∧ Announced s s' p.event := by
  cases hm with
  | start hs =>
    have hphase := (ho.starting hs).1
    rw [s.lifecycle.start_eq hphase, s.lifecycle.enterPolling_eq (by rw [hphase]; decide),
      hquiet (by rw [hs]; nofun)]
    exact announced_quiet rfl rfl rfl
  | deliver hs => exact announced_deliver (hquiet (by rw [hs]; nofun)) _
  | wait hs => exact absurd hs ho.ne_wait
  | requestClose hs =>
    obtain ⟨hphase, -⟩ := ho.waiting hs
    rw [s.lifecycle.requestClose_eq (by rw [hphase]; decide)]
    refine announced_quiet rfl rfl ?_
    rw [hquiet (by rw [hs]; nofun)]
    rfl
  | consume hs =>
    obtain ⟨hphase, hreason⟩ := ho.waiting hs
    exact announced_consume (hquiet (by rw [hs]; nofun)) hphase hreason
  | health hs =>
    rw [fireHealth_quiet (hquiet (by rw [hs]; nofun))]
    refine ⟨_, rfl, fun p hp => ?_⟩
    split at hp
    · cases List.mem_singleton.mp hp
      exact ⟨rfl, .other rfl⟩
    · cases hp
  | fetch | close | poll | crash | leave => exact announced_none rfl

/-- A step announces a retry only for a failure that it takes. -/
theorem announced_step (hquiet : s.stage ≠ .crashed → s.lifecycle.events = []) (ho : s.IsOrderly)
    (hs : Step plan s s') :
    ∃ new, s'.published = s.published ++ new ∧
      ∀ p ∈ new, p.time = s.now ∧ Announced s s' p.event := by
  cases hs with
  | driver hm => exact announced_driver hquiet ho (.of_move hm)
  | worker hm =>
    obtain ⟨poller, scene, -, rfl⟩ := moveWorker_eq hm
    exact announced_none rfl
  | turn | time | close => exact announced_none rfl

/-! ## Fetches that are held back -/

/-- The stream takes no outcome before `T`, and its worker begins no fetch before. -/
structure Held (plan : Plan) (T : Nat) (s : Stream) : Prop where
  patient : Patient plan T s
  withholds : s.poller.Withholds T s.now

/-- While no reason to close is recorded, the worker has no other order than that of the poll. -/
theorem Patient.held (h : Patient plan T s) (hnone : s.lifecycle.closeReason = none)
    (hcrashed : s.stage ≠ .crashed) : Held plan T s := by
  refine ⟨h, ?_⟩
  by_cases hwaiting : ∃ poll, s.stage = .waiting poll
  · obtain ⟨poll, hs⟩ := hwaiting
    exact (h.polls poll hs).withholds
  · exact (h.rests hnone hcrashed (not_exists.mp hwaiting)).withholds T s.now

theorem DriverMove.now_eq (hm : DriverMove plan s s') : s'.now = s.now := by
  cases hm with
  | deliver =>
    rcases deliver_cases plan s _ with ⟨d, flow, l, command, -, -, heq⟩ | ⟨d, heq⟩ <;>
      rw [heq] <;> rfl
  | @consume poll o p =>
    rcases (s.withPoll p).consume_cases o with ⟨l, command, -, heq⟩ | ⟨l, fault, -, heq⟩ <;>
      rw [heq] <;> rfl
  | health =>
    obtain ⟨l, published, heq, -⟩ := s.fireHealth_eq
    rw [heq]
  | start | fetch | close | wait | requestClose | poll | crash | leave => rfl

/-- Every step of a stream that is held keeps to it. -/
theorem Held.step (hcapacity : 0 < plan.workerCapacity) (h : Held plan T s) (ho : s.IsOrderly)
    (hs : Step plan s s') : Held plan T s' ∧ Scene.Onset T s.now s.scene s'.scene := by
  obtain ⟨taken, new, hadvance⟩ := h.patient.step hcapacity ho hs
  have hpatient := hadvance.patient T (.inl (Nat.le_refl T))
  have hmove : s'.poller.Withholds T s'.now ∧ Scene.Onset T s.now s.scene s'.scene := by
    cases hs with
    | driver hm =>
      have hdriver := DriverMove.of_move hm
      rw [hdriver.now_eq]
      rcases hdriver.poller_cases with
        ⟨hpoller, -, hbegun⟩ | ⟨poll, m, r, hstage, hmove, hafter, hpoller, hscene⟩
      · refine ⟨?_, .inl hbegun⟩
        rcases hpoller with hp | hp <;> rw [hp]
        · exact h.withholds
        · exact .stop s.poller
      · rw [hpoller, hscene]
        exact (h.patient.polls poll hstage).onset hcapacity hmove hafter
    | worker hm =>
      obtain ⟨poller, scene, hp, rfl⟩ := moveWorker_eq hm
      exact h.withholds.moveWorker hp
    | turn | close => exact ⟨h.withholds, .inl rfl⟩
    | time t => exact ⟨h.withholds.mono (Nat.le_max_left _ _) (.inl (Nat.le_refl T)), .inl rfl⟩
  exact ⟨⟨hpatient, hmove.1⟩, hmove.2⟩

/-- A stream that is held begins no fetch early, whatever steps are taken. -/
theorem Held.reach (hcapacity : 0 < plan.workerCapacity) (hkept : Kept plan s) (h : Held plan T s)
    (hreach : Reach plan s s') :
    Held plan T s' ∧ ∃ later, s'.scene.begun = s.scene.begun ++ later ∧ ∀ t ∈ later, T ≤ t := by
  induction hreach with
  | refl => exact ⟨h, [], (List.append_nil _).symm, nofun⟩
  | @tail s₁ s₂ hto hstep ih =>
    obtain ⟨hheld, later, hbegun, hlate⟩ := ih
    obtain ⟨hnext, honset⟩ := hheld.step hcapacity (hkept.reach hto).orderly hstep
    refine ⟨hnext, ?_⟩
    rcases honset with hsame | ⟨hle, hone⟩
    · exact ⟨later, hsame.trans hbegun, hlate⟩
    · refine ⟨later ++ [s₁.now], by rw [hone, hbegun, List.append_assoc], fun t ht => ?_⟩
      rcases List.mem_append.mp ht with ht | ht
      · exact hlate t ht
      · rw [List.mem_singleton.mp ht]
        exact hle

/-! ## Retries -/

/-- No step changes the policy. -/
theorem policy_step (hs : Step plan s s') :
    s'.lifecycle.backoff.policy = s.lifecycle.backoff.policy :=
  bearing_step (P := fun b => b.backoff.policy = s.lifecycle.backoff.policy)
    (fun l i hpolicy => (l.respond_policy i).trans hpolicy) rfl hs

/-- What is known of a stream that has announced retries. -/
structure Spaced (plan : Plan) (p : Backoff.Policy) (s : Stream) : Prop where
  patient : Patient plan 0 s
  policy : s.lifecycle.backoff.policy = p
  held : ∀ q ∈ s.published, Held plan (q.time + q.event.delay) s
  caused : ∀ q ∈ s.published, ∀ delay step code, q.event = .retryScheduled delay step code →
    (1 ≤ delay ↔ p.unitMs ≠ 0) ∧ ∃ e, (q.time, .error e) ∈ s.consumed ∧ e.code = code

theorem Spaced.step {p : Backoff.Policy} (hcapacity : 0 < plan.workerCapacity) (h : Spaced plan p s)
    (ho : s.IsOrderly) (hs : Step plan s s') : Spaced plan p s' := by
  obtain ⟨taken, new, hadvance⟩ := h.patient.step hcapacity ho hs
  obtain ⟨new', hnew', hannounced⟩ := announced_step h.patient.quiet ho hs
  obtain rfl : new' = new := List.append_cancel_left (hnew'.symm.trans hadvance.published)
  refine ⟨hadvance.patient 0 (.inl (Nat.le_refl 0)), (policy_step hs).trans h.policy,
    fun q hq => ?_, fun q hq delay step code hevent => ?_⟩
  · rw [hnew'] at hq
    rcases List.mem_append.mp hq with hq | hq
    · exact ((h.held q hq).step hcapacity ho hs).1
    · obtain ⟨htime, hevent⟩ := hannounced q hq
      have hpause : q.event.delay ≤ Publication.pause new' :=
        List.le_sum_of_mem (List.mem_map_of_mem hq)
      have hpatient := hadvance.patient (q.time + q.event.delay) (.inr (by omega))
      generalize q.event = event at hevent hpatient
      cases hevent with
      | other hother =>
        refine ⟨hpatient, Poller.withholds_of_le ?_⟩
        rw [Event.delay_eq_zero hother, htime]
        exact hadvance.now
      | retry _ _ hreason hstage => exact hpatient.held hreason (by rw [hstage]; nofun)
  · rw [hnew'] at hq
    rcases List.mem_append.mp hq with hq | hq
    · obtain ⟨hpos, e, hmem, hcode⟩ := h.caused q hq delay step code hevent
      refine ⟨hpos, e, ?_, hcode⟩
      rw [hadvance.consumed]
      exact List.mem_append_left _ hmem
    · obtain ⟨htime, hretry⟩ := hannounced q hq
      rw [hevent] at hretry
      cases hretry with
      | other hother => cases hother
      | @retry e _ _ hnext hconsumed =>
        refine ⟨?_, e, ?_, rfl⟩
        · rw [Backoff.Controller.nextDelay_pos_iff hnext, h.policy]
        · rw [hconsumed, htime]
          exact List.mem_append_right _ List.mem_cons_self

theorem spaced_start {c : Client} {isThreaded : Bool} {scene : Scene} {s₀ : Stream}
    (h : c.start isThreaded .empty = (.ok s₀, scene)) : Spaced c.plan c.options.backoff s₀ := by
  obtain ⟨hpatient, hnew⟩ := patient_start h
  obtain ⟨poller, rfl, -⟩ := c.start_ok h
  exact ⟨hpatient, rfl, nofun, nofun⟩

/-! ## Main statement -/

/-- In whatever order driver and worker take their steps, whenever a close is asked for, and
whatever the server does: every retry is announced at the time at which a failure is taken, with the
code of that failure; no fetch begins before the delay is over, neither for the stream nor by a
worker that is left behind; and the delay is at least a millisecond if and only if the unit is. -/
theorem retries_spaced {c : Client} {isThreaded : Bool} {scene : Scene} {s₀ s s' : Stream}
    (hvalid : c.options.validate = .ok ()) (hstart : c.start isThreaded .empty = (.ok s₀, scene))
    (hr : Reach c.plan s₀ s) (hr' : Reach c.plan s s') :
    ∃ later, s'.scene.begun = s.scene.begun ++ later ∧
      ∀ p ∈ s.published, ∀ delay step code, p.event = .retryScheduled delay step code →
        (1 ≤ delay ↔ c.options.backoff.unitMs ≠ 0) ∧
        (∃ e, (p.time, .error e) ∈ s.consumed ∧ e.code = code) ∧
        ∀ t ∈ later, p.time + delay ≤ t := by
  have hcapacity : 0 < c.plan.workerCapacity := (Options.accepted hvalid).2
  have hkept := kept_start hstart
  have hspaced : Spaced c.plan c.options.backoff s :=
    hkept.preserves (fun _ _ hk h hs => h.step hcapacity hk.orderly hs) (spaced_start hstart) hr
  have hheld : ∀ {T}, Held c.plan T s → ∃ later, s'.scene.begun = s.scene.begun ++ later ∧
      ∀ t ∈ later, T ≤ t :=
    fun h => (h.reach hcapacity (hkept.reach hr) hr').2
  have hzero : Held c.plan 0 s := ⟨hspaced.patient, Poller.withholds_of_le (Nat.zero_le _)⟩
  obtain ⟨later, hlater, -⟩ := hheld hzero
  refine ⟨later, hlater, fun p hp delay step code hevent => ?_⟩
  obtain ⟨hpos, hcause⟩ := hspaced.caused p hp delay step code hevent
  refine ⟨hpos, hcause, ?_⟩
  obtain ⟨later', hlater', hlate⟩ := hheld (hspaced.held p hp)
  obtain rfl : later' = later := List.append_cancel_left (hlater'.symm.trans hlater)
  rwa [hevent] at hlate

/-- The short feed begins with an error after three milliseconds, and the next fetch begins 256
milliseconds after it. -/
theorem retries_spaced_brief :
    ∃ s s', Reach (Feed.brief.client .always).plan
        (.ofOptions (Feed.brief.client .always).options .pending .empty) s ∧
      Reach (Feed.brief.client .always).plan s s' ∧ (∃ e, (3, .error e) ∈ s.consumed) ∧
      ∃ later, s'.scene.begun = s.scene.begun ++ later ∧ later ≠ [] ∧ ∀ t ∈ later, 259 ≤ t := by
  have hr := Rehearsal.reach_runUntil (Feed.brief.client .always).plan 1000 100 2
    ⟨.ofOptions (Feed.brief.client .always).options .pending .empty, true, true, []⟩
  have hr' := Rehearsal.reach_runUntil (Feed.brief.client .always).plan 1000 100 10
    (Rehearsal.runUntil (Feed.brief.client .always).plan 1000 100 2
      ⟨.ofOptions (Feed.brief.client .always).options .pending .empty, true, true, []⟩).1
  have hstart : (Feed.brief.client .always).start true .empty =
      (.ok (.ofOptions (Feed.brief.client .always).options .pending .empty), .empty) := rfl
  obtain ⟨later, hlater, hspaced⟩ := retries_spaced rfl hstart hr hr'
  have hmem : (⟨.retryScheduled 256 8 0, 3, 0⟩ : Publication) ∈
      (Rehearsal.runUntil (Feed.brief.client .always).plan 1000 100 2
        ⟨.ofOptions (Feed.brief.client .always).options .pending .empty, true, true,
          []⟩).1.stream.published := by decide +kernel
  obtain ⟨-, ⟨e, he, -⟩, hlate⟩ := hspaced _ hmem _ _ _ rfl
  refine ⟨_, _, hr, hr', ⟨e, he⟩, later, hlater, ?_, hlate⟩
  rintro rfl
  have hlength := congrArg List.length hlater
  revert hlength
  decide +kernel

/-- A client whose unit is no time at all, with a server that fails twice at once. -/
def hasty : Client where
  server := ⟨⟨"in-process"⟩, ⟨"console"⟩, none,
    fun n => ⟨0, .answer (if n < 2 then .error ⟨503, none⟩ else .ok none)⟩⟩
  setting := ⟨⟨"console"⟩, .standard, none, none⟩
  options := (Options.default.withOffload .never).withBackoff
    { Backoff.Policy.default with unitMs := 0 }

/-- Its options are valid, although the unit could not be set like this by `Policy.withUnit`: it
announces no delay, and its next fetch begins at the time of the failure. -/
theorem retry_unspaced :
    hasty.options.validate = .ok () ∧
    ∃ s₀ s s', hasty.start false .empty = (.ok s₀, .empty) ∧ Reach hasty.plan s₀ s ∧
      Reach hasty.plan s s' ∧ ∃ p ∈ s.published, p.event = .retryScheduled 0 8 503 ∧
        p.time ∈ s'.scene.begun.drop s.scene.begun.length := by
  have hr := Schedule.reach_settle hasty.plan 4
    (.ofStream hasty.plan (.ofOptions hasty.options .direct .empty))
  have hr' := Schedule.reach_settle hasty.plan 4
    ((Schedule.ofStream hasty.plan (.ofOptions hasty.options .direct .empty)).settle hasty.plan 4)
  rw [Schedule.ofStream_stream] at hr
  exact ⟨rfl, _, _, _, rfl, hr, hr', ⟨.retryScheduled 0 8 503, 0, 0⟩, by decide +kernel, rfl,
    by decide +kernel⟩

end Stream

end RemoteConsole
