import RemoteConsole.Proofs.Lifecycle.Overflow
import RemoteConsole.Proofs.Poller.Sized
import RemoteConsole.Proofs.Stream.Patience
import RemoteConsole.Proofs.Stream.Protocol

/-!
# What a driver breaks off for

* `Stream.Breakage plan s`: the next step of the driver breaks off, one constructor for each way.
  `breaks_iff`: there are no others.
* `Stream.Staffed`: what is known of the poller of a stream. `Staffed.step`: every step keeps it.
* `Stream.BrokenBy`: what it takes for a driver to break off. `brokenBy_reach`: it takes one of these
  in every run.
* `Staffed.hires`, `Staffed.breaks`: when its first fetch is to begin a stream gets its worker, or
  breaks off if the channels cannot be had; `Staffed.calls_reach`: then nothing is ever fetched.
-/

namespace RemoteConsole

namespace Stream

variable {plan : Plan} {offloads : Bool} {s s' : Stream}

/-! ## The step that breaks off -/

/-- The next step of the driver breaks off: its worker needs channels that cannot be had, a fetch of
its own panics, it takes a failure that there is no number for, or a hook panics. -/
inductive Breakage (plan : Plan) (s : Stream) : Prop
  | channels {delay : Nat} (hs : s.stage = .waiting (.fresh delay)) (hc : s.closeWanted = false)
      (hp : s.poller = .pending) (hlarge : Worker.capacityLimit < plan.workerCapacity)
  | fetch {fetch : Fetch} (hs : s.stage = .waiting (.fetching fetch)) (hc : s.closeWanted = false)
      (hdue : fetch.due ≤ s.now) (hreply : fetch.reply = .panic)
  | counter {poll : Poll} {e : FetchError} {p : Poller.State} (hs : s.stage = .waiting poll)
      (hc : s.closeWanted = false)
      (hm : Poller.move plan.server plan.workerCapacity s.now (s.poller, poll, s.scene) =
        .ready (.error e) p)
      (hphase : s.lifecycle.phase = .polling) (he : e.isTerminal = false)
      (hlast : s.lifecycle.failures = Lifecycle.lastFailure)
  | hook {chunk : Option Chunk} {d : Delivery} (hs : s.stage = .executing (.deliver chunk))
      (hprocess : Delivery.process plan.setting chunk s.delivery = (d, .panicked))

/-- To take an outcome breaks off only if it is a failure that cannot be counted. -/
theorem consume_crashed (hp : s.lifecycle.backoff.policy.IsOrdered) {o : Outcome}
    (hcrashed : (s.consume o).stage = .crashed) :
    ∃ e, o = .error e ∧ s.lifecycle.phase = .polling ∧ e.isTerminal = false ∧
      s.lifecycle.failures = Lifecycle.lastFailure := by
  have hfollows := s.follows_consume o
  have hiff (fault : Fault) : (s.lifecycle.respond (.receive o s.now)).2 = .broken fault ↔ _ :=
    Lifecycle.respond_broken_iff hp
  generalize s.lifecycle.respond (.receive o s.now) = answer at hfollows hiff
  obtain ⟨l, output⟩ := answer
  cases output with
  | command c => cases hcrashed.symm.trans hfollows.2
  | waited => exact hfollows.elim
  | broken fault =>
    obtain ⟨-, hfails, hlast⟩ := (hiff fault).mp rfl
    obtain ⟨e, now, hinput, hphase, he⟩ := Lifecycle.turn_fails_iff.mp hfails
    cases hinput
    exact ⟨e, rfl, hphase, he, hlast⟩

/-- For each of the causes the driver breaks off. -/
theorem Breakage.breaks (h : Breakage plan s) :
    ∃ s', DriverMove plan s s' ∧ s'.stage = .crashed := by
  cases h with
  | @channels delay hs hc hp hlarge =>
    have hm : Poller.move plan.server plan.workerCapacity s.now (s.poller, .fresh delay, s.scene) =
        .crashed (.pending, .fresh delay, s.scene) := by
      rw [hp]
      exact Poller.spawn_large hlarge plan.server delay s.scene
    exact ⟨_, .crash hs hc hm, rfl⟩
  | @fetch fetch hs hc hdue hreply =>
    have hm : Poller.move plan.server plan.workerCapacity s.now
        (s.poller, .fetching fetch, s.scene) = .crashed (s.poller, .fetching fetch, s.scene) := by
      unfold Poller.move
      dsimp only
      rw [if_pos hdue, hreply]
    exact ⟨_, .crash hs hc hm, rfl⟩
  | @counter poll e p hs hc hm hphase he hlast =>
    have hreceive := Lifecycle.receive_overflowed hphase he hlast s.now
    exact ⟨_, .consume hs hc hm, by rw [consume_fault (s := s.withPoll p) hreceive]⟩
  | hook hs hprocess => exact ⟨_, .deliver hs, by rw [deliver_panicked hprocess]; rfl⟩

/-- Under an ordered policy there are no other causes. -/
theorem breaks_iff (hp : s.lifecycle.backoff.policy.IsOrdered) :
    (∃ s', DriverMove plan s s' ∧ s'.stage = .crashed) ↔ Breakage plan s := by
  refine ⟨fun ⟨s', hm, hcrashed⟩ => ?_, Breakage.breaks⟩
  cases hm with
  | start | fetch | close | wait | requestClose | poll | leave => cases hcrashed
  | @deliver chunk hs =>
    generalize hprocess : Delivery.process plan.setting chunk s.delivery = result
    obtain ⟨d, ending⟩ := result
    cases ending with
    | panicked => exact .hook hs hprocess
    | flow flow => rw [deliver_flow plan hprocess] at hcrashed; cases hcrashed
  | @consume poll o p hs hc hm =>
    obtain ⟨e, rfl, hphase, he, hlast⟩ := consume_crashed (s := s.withPoll p) hp hcrashed
    exact .counter hs hc hm hphase he hlast
  | @crash poll p hs hc hm =>
    generalize hpoller : s.poller = poller at hm
    cases Poller.Move.of_move hm nofun with
    | unspawned hlarge => exact .channels hs hc hpoller hlarge
    | panic hdue hreply => exact .fetch hs hc hdue hreply
  | health hs =>
    obtain ⟨l, published, heq, -⟩ := s.fireHealth_eq
    rw [heq] at hcrashed
    cases hs.symm.trans hcrashed

/-! ## The poller of a stream -/

/-- The poller of a stream is one with channels of its size, waits for what it can wait for, and is
given up at the end only. -/
structure Staffed (plan : Plan) (offloads : Bool) (s : Stream) : Prop where
  sized : s.poller.Sized offloads plan.workerCapacity
  awaits : ∀ poll, s.stage = .waiting poll →
    Poller.Awaits plan.server s.scene.calls s.poller poll
  stopped : s.poller = .stopped → ∃ reason, s.stage = .finished reason

namespace Staffed

theorem ne_stopped (h : Staffed plan offloads s) (hrunning : ∀ reason, s.stage ≠ .finished reason) :
    s.poller ≠ .stopped := by
  intro hp
  obtain ⟨reason, hs⟩ := h.stopped hp
  exact hrunning reason hs

/-- A step after which nothing is waited for. -/
theorem idle (h : Staffed plan offloads s) (hrunning : ∀ reason, s.stage ≠ .finished reason)
    (hpoller : s'.poller = s.poller) (hidle : ∀ poll, s'.stage ≠ .waiting poll) :
    Staffed plan offloads s' := by
  refine ⟨?_, fun poll hs => absurd hs (hidle poll), fun hp => ?_⟩
  · rw [hpoller]
    exact h.sized
  · exact absurd (hpoller.symm.trans hp) (h.ne_stopped hrunning)

/-- A step of the poll. -/
theorem polled (h : Staffed plan offloads s) {poll : Poll} {m : Motion Outcome Poller.State}
    {p : Poller.State} (hs : s.stage = .waiting poll)
    (hm : Poller.Move plan.server plan.workerCapacity s.now s.scene s.poller poll m)
    (hafter : Poller.after? m = some p) : Staffed plan offloads (s.withPoll p) := by
  obtain ⟨hsized, hawaits, hkept⟩ := hm.sized hafter h.sized (h.awaits poll hs)
  refine ⟨hsized, fun poll' hs' => ?_, fun hp => ?_⟩
  · cases hs'
    exact hawaits
  · exact absurd hp (hkept (h.ne_stopped (by rw [hs]; nofun)))

theorem driver (h : Staffed plan offloads s) (hm : DriverMove plan s s') :
    Staffed plan offloads s' := by
  cases hm with
  | start hs | close hs | wait hs | requestClose hs =>
    exact h.idle (by rw [hs]; nofun) rfl nofun
  | fetch hs =>
    refine ⟨h.sized, fun poll hpoll => ?_, fun hp => absurd hp (h.ne_stopped (by rw [hs]; nofun))⟩
    cases hpoll
    exact .fresh
  | deliver hs =>
    rcases deliver_cases plan s _ with ⟨d, flow, l, command, -, -, heq⟩ | ⟨d, heq⟩
    · rw [heq]; exact h.idle (by rw [hs]; nofun) rfl nofun
    · rw [heq]; exact h.idle (by rw [hs]; nofun) rfl nofun
  | poll hs hc hm => exact h.polled hs (.of_move hm nofun) rfl
  | @consume poll o p hs hc hm =>
    have hpolled := h.polled hs (.of_move hm nofun) rfl
    rcases (s.withPoll p).consume_cases o with ⟨l, command, -, heq⟩ | ⟨l, fault, -, heq⟩
    · rw [heq]; exact hpolled.idle nofun rfl nofun
    · rw [heq]; exact hpolled.idle nofun rfl nofun
  | crash hs hc hm => exact (h.polled hs (.of_move hm nofun) rfl).idle nofun rfl nofun
  | health =>
    obtain ⟨l, published, heq, -⟩ := s.fireHealth_eq
    rw [heq]
    exact ⟨h.sized, h.awaits, h.stopped⟩
  | leave => exact ⟨h.sized.stop, nofun, fun _ => ⟨_, rfl⟩⟩

theorem step (h : Staffed plan offloads s) (hs : Step plan s s') : Staffed plan offloads s' := by
  cases hs with
  | driver hm => exact h.driver (.of_move hm)
  | worker hm =>
    obtain ⟨poller, scene, hp, rfl⟩ := moveWorker_eq hm
    obtain ⟨hsized, hkept, hawaits⟩ := h.sized.moveWorker hp
    exact ⟨hsized, fun poll hs => hawaits poll (h.awaits poll hs), fun hp => absurd hp hkept⟩
  | turn | time | close => exact ⟨h.sized, h.awaits, h.stopped⟩

theorem reach (h : Staffed plan offloads s) (hr : Reach plan s s') : Staffed plan offloads s' := by
  induction hr with
  | refl => exact h
  | tail _ hstep ih => exact ih.step hstep

end Staffed

/-! ## The count of failures -/

theorem within_reach {p : Backoff.Policy} (h : s.lifecycle.bearing.Within p)
    (hr : Reach plan s s') : s'.lifecycle.bearing.Within p := by
  induction hr with
  | refl => exact h
  | tail _ hstep ih =>
    exact .of_drained
      (bearing_step (fun _ i hl => (hl.of_drained.respond i).drained) ih.drained hstep)

/-! ## Causes -/

/-- What a driver has broken off for: the size of its worker's channels, a fetch of its own, a
policy that never gives up, or a hook. -/
inductive BrokenBy (plan : Plan) (p : Backoff.Policy) (offloads : Bool) (s : Stream) : Prop
  | channels (hmode : offloads = true) (hlarge : Worker.capacityLimit < plan.workerCapacity)
  | fetch (hmode : offloads = false) (hpanic : plan.server.Panicked s.scene.calls)
  | counter (hmost : p.maxRetries = Lifecycle.lastFailure)
  | hook (hpanics : ¬ plan.setting.HooksReturn)

variable {p : Backoff.Policy}

theorem BrokenBy.mono (h : BrokenBy plan p offloads s) (hcalls : s.scene.calls ≤ s'.scene.calls) :
    BrokenBy plan p offloads s' := by
  cases h with
  | channels hmode hlarge => exact .channels hmode hlarge
  | fetch hmode hpanic => exact .fetch hmode (hpanic.mono hcalls)
  | counter hmost => exact .counter hmost
  | hook hpanics => exact .hook hpanics

/-- A stream that fetches by itself was to do so, if there can be channels at all. -/
theorem Staffed.direct (h : Staffed plan offloads s) (hpos : 0 < plan.workerCapacity)
    (hitself : s.poller.FetchesItself) : offloads = false := by
  have hsized := h.sized
  rcases hitself with hp | hp <;> rw [hp] at hsized
  · cases hsized with
    | direct hmode => exact hmode
  · cases hsized with
    | fallback _ hzero => omega

theorem Breakage.brokenBy (h : Breakage plan s) (hpos : 0 < plan.workerCapacity)
    (hstaffed : Staffed plan offloads s) (hwithin : s.lifecycle.bearing.Within p) :
    BrokenBy plan p offloads s := by
  cases h with
  | channels _ _ hp hlarge =>
    have hsized := hstaffed.sized
    rw [hp] at hsized
    cases hsized with
    | pending hmode => exact .channels hmode hlarge
  | fetch hs _ _ hreply =>
    obtain ⟨hitself, i, hi, hcall⟩ := (hstaffed.awaits _ hs).of_fetching
    exact .fetch (hstaffed.direct hpos hitself) ⟨i, hi, hcall.trans hreply⟩
  | counter _ _ _ hphase _ hlast => exact .counter (hwithin.maxRetries_eq hphase hlast)
  | @hook chunk d _ hprocess =>
    refine .hook fun hreturns => ?_
    obtain ⟨d', flow, hflow⟩ := Delivery.process_returns hreturns chunk s.delivery
    cases hprocess.symm.trans hflow

/-- In every run a driver breaks off for one of the causes. -/
theorem brokenBy_reach (hp : p.IsOrdered) (hpos : 0 < plan.workerCapacity)
    (hstaffed : Staffed plan offloads s) (hwithin : s.lifecycle.bearing.Within p)
    (hrunning : s.stage ≠ .crashed) (hr : Reach plan s s') (hcrashed : s'.stage = .crashed) :
    BrokenBy plan p offloads s' := by
  induction hr with
  | refl => exact absurd hcrashed hrunning
  | @tail s₁ s₂ hto hstep ih =>
    have hcalls := (calls_step hstep).1
    by_cases hbefore : s₁.stage = .crashed
    · -- the driver takes no more steps, but a worker may go on to fetch
      exact (ih hbefore).mono hcalls
    · cases hstep with
      | driver hm =>
        have hwithin₁ := within_reach hwithin hto
        have hordered : s₁.lifecycle.backoff.policy.IsOrdered := by
          rw [show s₁.lifecycle.backoff.policy = p from hwithin₁.policy]
          exact hp
        have hbreakage := (breaks_iff hordered).mp ⟨_, .of_move hm, hcrashed⟩
        exact (hbreakage.brokenBy hpos (hstaffed.reach hto) hwithin₁).mono hcalls
      | worker hm =>
        obtain ⟨poller, scene, -, rfl⟩ := moveWorker_eq hm
        exact absurd hcrashed hbefore
      | turn | time | close => exact absurd hcrashed hbefore

/-! ## Channels -/

/-- A stream that has no worker yet waits for its first fetch. -/
theorem Staffed.waits_fresh (h : Staffed plan offloads s) {poll : Poll}
    (hs : s.stage = .waiting poll) (hp : s.poller = .pending) :
    ∃ delay, s.stage = .waiting (.fresh delay) := by
  have hawaits := h.awaits poll hs
  rw [hp] at hawaits
  obtain ⟨delay, rfl⟩ := hawaits.of_pending
  exact ⟨delay, hs⟩

/-- A stream whose first fetch is to run on a worker gets it, if the channels can be had. -/
theorem Staffed.hires (h : Staffed plan offloads s) (hpos : 0 < plan.workerCapacity)
    (hle : plan.workerCapacity ≤ Worker.capacityLimit) {poll : Poll} (hs : s.stage = .waiting poll)
    (hc : s.closeWanted = false) (hp : s.poller = .pending) :
    ∃ s', s.moveDriver plan = some s' ∧ s'.poller = .running (.spawned plan.workerCapacity) := by
  obtain ⟨delay, hfresh⟩ := h.waits_fresh hs hp
  have hm : Poller.move plan.server plan.workerCapacity s.now (s.poller, .fresh delay, s.scene) =
      .moved (.running (.spawned plan.workerCapacity), .fresh delay, s.scene) := by
    rw [hp]
    exact Poller.spawn_fitting hpos hle plan.server delay s.scene
  exact ⟨_, (DriverMove.poll hfresh hc hm).move_eq, rfl⟩

/-- If they cannot be had, nothing is fetched for the stream. -/
theorem Staffed.calls_reach (h : Staffed plan true s)
    (hlarge : Worker.capacityLimit < plan.workerCapacity) (hr : Reach plan s s') :
    s'.scene.calls = s.scene.calls := by
  induction hr with
  | refl => rfl
  | @tail s₁ s₂ hto hstep ih =>
    have h₁ := h.reach hto
    refine Eq.trans ?_ ih
    cases hstep with
    | driver hm =>
      rcases (DriverMove.of_move hm).poller_cases with
        ⟨-, hcalls, -⟩ | ⟨poll, m, r, hs, hmove, hafter, -, hscene⟩
      · exact hcalls
      · rw [hscene]
        exact hmove.calls_of_oversized hafter h₁.sized hlarge (h₁.awaits poll hs)
    | worker hm =>
      obtain ⟨poller, scene, hp, rfl⟩ := moveWorker_eq hm
      rcases h₁.sized.oversized hlarge with hpoller | hpoller <;> rw [hpoller] at hp <;> cases hp
    | turn | time | close => rfl

/-- Its driver breaks off as soon as it waits for a fetch. -/
theorem Staffed.breaks (h : Staffed plan true s)
    (hlarge : Worker.capacityLimit < plan.workerCapacity) {poll : Poll}
    (hs : s.stage = .waiting poll) (hc : s.closeWanted = false) :
    ∃ s', s.moveDriver plan = some s' ∧ s'.stage = .crashed := by
  have hp : s.poller = .pending :=
    (h.sized.oversized hlarge).resolve_right (h.ne_stopped (by rw [hs]; nofun))
  obtain ⟨delay, hfresh⟩ := h.waits_fresh hs hp
  obtain ⟨s', hm, hcrashed⟩ := (Breakage.channels hfresh hc hp hlarge).breaks
  exact ⟨s', hm.move_eq, hcrashed⟩

end Stream

end RemoteConsole
