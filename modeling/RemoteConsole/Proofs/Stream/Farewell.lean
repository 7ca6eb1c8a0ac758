import RemoteConsole.Proofs.Poller.Errand
import RemoteConsole.Proofs.Stream.Ending

/-!
# What hooks are told

* `CloseReason.farewell`: the calls to hooks that go with a reason to close.
* `Outlet.hookCalls`: the calls that were made. Neither a poll nor the worker makes any
  (`Poller.Move.hookCalls_eq`, `hookCalls_moveWorker`).
* `Stream.Unheard`, `Stream.Heard`: the stream is open and no hook was called; it is closed and the
  hooks were called as its reason says. `Faithful` says that there is no third case.
* `Stream.ShowsEnd`: someone outside can tell that the stream has ended.
* `Stream.hooks_told`: the hooks are called as the reason says before the end shows, and no more.

The hooks return here. Servers and displays may do what they like.
-/

namespace RemoteConsole

/-- The entry is a call to a hook. -/
def Entry.isHook : Entry → Bool
  | .connected _ => false
  | .fetched _ => false
  | .suppressed => true
  | .unloaded _ => true
  | .closed => true

/-- The calls to hooks, the oldest first. -/
def Outlet.hookCalls (o : Outlet) : List Entry := o.journal.filter Entry.isHook

/-- The calls to hooks that go with a reason to close: only a shutdown unloads, and only a clean one
suppresses the notice. -/
def CloseReason.farewell (session : SessionId) : CloseReason → List Entry
  | .shutdown true => [.suppressed, .unloaded session, .closed]
  | .shutdown false => [.unloaded session, .closed]
  | .serverClosed => [.closed]
  | .sessionInvalid _ => [.closed]
  | .retriesExhausted _ => [.closed]
  | .requested => [.closed]

theorem CloseReason.filter_heard_farewell (s : Setting) (reason : CloseReason) :
    (s.heard (reason.farewell s.session)).filter Entry.isHook =
      s.heard (reason.farewell s.session) := by
  unfold Setting.heard farewell
  split
  · split <;> rfl
  · rfl

/-- What a last delivery tells the hooks is what goes with the reason that it gives. -/
theorem Delivery.farewell_of_reason (s : Setting) {chunk : Option Chunk} {reason : CloseReason}
    (h : Lifecycle.reasonOf chunk = some reason) :
    farewell s (chunk.bind Chunk.notice?) false = reason.farewell s.session := by
  cases chunk with
  | none => cases h; rfl
  | some c =>
    obtain ⟨clean, hnotice, rfl⟩ := Option.map_eq_some_iff.mp h
    rw [Option.bind_some, hnotice]
    cases clean <;> rfl

/-- Without a notice, the hooks are told of the close and of nothing else. -/
theorem Delivery.farewell_plain (s : Setting) {reason : CloseReason}
    (h : ∀ clean, reason ≠ .shutdown clean) :
    farewell s none false = reason.farewell s.session := by
  cases reason with
  | shutdown clean => exact absurd rfl (h clean)
  | serverClosed | sessionInvalid | retriesExhausted | requested => rfl

/-! ## Fetching calls no hook -/

variable {server : Server} {now : Nat}

theorem Server.hookCalls_connect (server : Server) (s : Scene) :
    (server.connect s).2.outlet.hookCalls = s.outlet.hookCalls := by
  have hnote : (s.note (.connected server.endpoint)).outlet.hookCalls = s.outlet.hookCalls := by
    unfold Outlet.hookCalls Scene.note Outlet.note
    rw [List.filter_append]
    exact List.append_nil _
  unfold connect
  split
  · rfl
  · dsimp only; split <;> exact hnote

theorem Server.hookCalls_begin (server : Server) (now : Nat) (s : Scene) :
    (server.begin now s).2.outlet.hookCalls = s.outlet.hookCalls := by
  unfold Outlet.hookCalls Server.begin Scene.note Outlet.note
  dsimp only
  rw [List.filter_append]
  exact List.append_nil _

theorem Worker.hookCalls_beginFetch (server : Server) (now : Nat) (w : Worker) (s : Scene) :
    (w.beginFetch server now s).2.outlet.hookCalls = s.outlet.hookCalls := by
  unfold beginFetch
  split
  · rfl
  · exact server.hookCalls_begin now s

theorem Worker.Move.hookCalls_eq {w : Worker} {s : Scene} {r : Worker × Scene}
    (h : Move server now w s r) : r.2.outlet.hookCalls = s.outlet.hookCalls := by
  cases h with
  | connect => exact server.hookCalls_connect s
  | fetch => exact hookCalls_beginFetch server now _ s
  | wake => exact hookCalls_beginFetch server now w s
  | delay | answer | panic | reply => rfl

namespace Poller

variable {capacity : Nat} {p p' : Poller} {poll : Poll} {s s' : Scene}

theorem hookCalls_moveWorker (h : p.moveWorker server now s = some (p', s')) :
    s'.outlet.hookCalls = s.outlet.hookCalls := by
  cases p with
  | running w =>
    obtain ⟨⟨w', s''⟩, hw, heq⟩ := Option.map_eq_some_iff.mp h
    cases heq
    exact (Worker.Move.of_move hw).hookCalls_eq
  | direct | pending | fallback | stopped => cases h

theorem Move.hookCalls_eq {m : Motion Outcome State} {r : State}
    (h : Move server capacity now s p poll m) (hm : after? m = some r) :
    r.2.2.outlet.hookCalls = s.outlet.hookCalls := by
  cases h with
  | fetch | wake => cases hm; exact server.hookCalls_begin now s
  | fallBack | unconnected => cases hm; exact server.hookCalls_connect s
  | delay | hire | unspawned | request | shutDown | answer | panic | send | receive =>
    cases hm; rfl

end Poller

/-! ## The invariant -/

namespace Stream

/-- The calls to hooks that the stream has made. -/
def hookCalls (s : Stream) : List Entry := s.scene.outlet.hookCalls

/-- The stream is open, as far as anyone can tell, and no hook was called. -/
structure Unheard (s : Stream) : Prop where
  lifecycle : s.lifecycle.IsOpen
  isClosed : s.isClosed = false
  hooks : s.hookCalls = []
  published : ∀ p ∈ s.published, p.event.isEnd = false

/-- The stream is closed, and the hooks were called as the reason says. -/
structure Heard (plan : Plan) (reason : CloseReason) (s : Stream) : Prop where
  lifecycle : s.lifecycle.HasClosed reason
  hooks : s.hookCalls = plan.setting.heard (reason.farewell plan.setting.session)
  published : ∀ p ∈ s.published, ∀ r, p.event = .closed r → r = reason

/-- The invariant of a run: an end that is delivered without a chunk is not a shutdown, and the
hooks were called as the state of the stream says. -/
structure Faithful (plan : Plan) (s : Stream) : Prop where
  kept : Kept plan s
  plain : s.stage = .executing (.deliver none) →
    ∀ clean, s.lifecycle.closeReason ≠ some (.shutdown clean)
  told : s.Unheard ∨ ∃ reason, Heard plan reason s

variable {plan : Plan} {s s' : Stream} {reason : CloseReason}

theorem Unheard.untold (h : s.Unheard) : s.Untold := ⟨h.lifecycle, h.published⟩

/-- A step that tells of no end and no hook. -/
theorem Unheard.step_of_untold (h : s.Unheard) (hu : s'.Untold)
    (hclosed : s'.isClosed = s.isClosed) (hscene : s'.scene = s.scene) : s'.Unheard where
  lifecycle := hu.lifecycle
  isClosed := hclosed.trans h.isClosed
  hooks := (congrArg (·.outlet.hookCalls) hscene).trans h.hooks
  published := hu.published

/-- The lifecycle of an open stream has moved on and is still open. -/
theorem Unheard.proceed (h : s.Unheard) {l : Lifecycle} (hl : l.IsOpen) (command : Command) :
    (s.proceed (l, command)).Unheard :=
  h.step_of_untold (h.untold.proceed hl command) rfl rfl

theorem Unheard.consume (h : s.Unheard) (o : Outcome) : (s.consume o).Unheard := by
  have hu := h.untold.consume o
  rcases s.consume_cases o with ⟨l, command, -, heq⟩ | ⟨l, fault, -, heq⟩ <;> rw [heq] at hu ⊢ <;>
    exact h.step_of_untold hu rfl rfl

theorem Unheard.fireHealth (h : s.Unheard) : s.fireHealth.Unheard := by
  have hu := h.untold.fireHealth
  obtain ⟨l, published, heq, -⟩ := s.fireHealth_eq
  rw [heq] at hu ⊢
  exact h.step_of_untold hu rfl rfl

theorem Unheard.withPoll (h : s.Unheard) {poll : Poll} {p : Poller.State}
    (hp : Poller.after? (Poller.move plan.server plan.workerCapacity s.now
      (s.poller, poll, s.scene)) = some p) : (s.withPoll p).Unheard := by
  have hmove : Poller.Move plan.server plan.workerCapacity s.now s.scene s.poller poll
      (Poller.move plan.server plan.workerCapacity s.now (s.poller, poll, s.scene)) :=
    .of_move rfl fun hblocked => by rw [hblocked] at hp; cases hp
  exact ⟨h.lifecycle, h.isClosed, (hmove.hookCalls_eq hp).trans h.hooks, h.published⟩

/-- The last delivery is made, and its end does not show yet. -/
structure Parting (plan : Plan) (reason : CloseReason) (s : Stream) (d : Delivery) : Prop where
  lifecycle : (s.afterDelivery d).lifecycle.IsOpen
  kept : s.lifecycle.closeReason = some reason
  hooks : (s.afterDelivery d).hookCalls = plan.setting.heard (reason.farewell plan.setting.session)

/-- A stream that closes after its last delivery. -/
theorem Parting.heard {d : Delivery} (h : Parting plan reason s d)
    (hpublished : ∀ p ∈ s.published, p.event.isEnd = false)
    (hphase : s.lifecycle.phase = .delivering ∨ s.lifecycle.phase = .backoff ∨
      s.lifecycle.phase = .polling) :
    Heard plan reason
      ((s.afterDelivery d).proceed ((s.afterDelivery d).lifecycle.delivered .stop s.now)) := by
  have hkept : (s.afterDelivery d).lifecycle.closeReason = some reason := h.kept
  have hclosed := h.lifecycle.close hkept
  rw [(s.afterDelivery d).lifecycle.delivered_stop hphase]
  refine ⟨hclosed.drained, h.hooks, fun p hp r hr => ?_⟩
  rcases List.mem_append.mp hp with hp | hp
  · have := hpublished p hp
    rw [hr] at this
    cases this
  · obtain ⟨e, he, rfl⟩ := List.mem_map.mp hp
    exact hclosed.events e he r hr

/-- A delivery goes on without a word to the hooks, or is the last one and tells them of the
reason. -/
theorem Faithful.delivery (hhooks : plan.setting.HooksReturn) (h : Faithful plan s)
    (hs : s.Unheard) {chunk : Option Chunk} (hstage : s.stage = .executing (.deliver chunk)) :
    (s.deliver plan chunk).Unheard ∧ chunk ≠ none ∧
        (s.deliver plan chunk).stage = .executing (.fetch 0) ∨
      ∃ reason d, Parting plan reason s d ∧
        s.deliver plan chunk =
          (s.afterDelivery d).proceed ((s.afterDelivery d).lifecycle.delivered .stop s.now) ∧
        Heard plan reason (s.deliver plan chunk) := by
  obtain ⟨hphase, hgo, hstop⟩ := h.kept.orderly.deliver hstage
  cases hreason : Lifecycle.reasonOf chunk with
  | none =>
    obtain ⟨d, hprocess, hclosed, hjournal⟩ := Delivery.process_continue hreason s.delivery
    have hafter : (s.afterDelivery d).Unheard :=
      ⟨⟨hs.lifecycle.phase, hs.lifecycle.watched, hs.lifecycle.events⟩,
        hclosed.trans hs.isClosed, (congrArg (·.filter Entry.isHook) hjournal).trans hs.hooks,
        hs.published⟩
    have hdelivering : (s.afterDelivery d).lifecycle.phase = .delivering := (hgo hreason).1
    have hfetch : (s.afterDelivery d).lifecycle.delivered .continue s.now = _ :=
      Lifecycle.delivered_continue _ hdelivering
    rw [deliver_flow plan hprocess]
    refine .inl ⟨hafter.proceed (hafter.lifecycle.continued s.now) _, ?_, ?_⟩
    · rintro rfl
      cases hreason
    · rw [hfetch]
      rfl
  | some r =>
    obtain ⟨reason, hkept⟩ := hstop (by rw [hreason]; exact nofun)
    obtain ⟨d, hprocess, hjournal⟩ :=
      Delivery.process_stop hhooks (by rw [hreason]; exact nofun) s.delivery
    -- the reason that the delivery gives is the one that the stream has
    have hfarewell : Delivery.farewell plan.setting (chunk.bind Chunk.notice?) s.isClosed =
        reason.farewell plan.setting.session := by
      rw [hs.isClosed]
      have hstands := h.kept.orderly.stands hstage
      cases chunk with
      | none =>
        refine Delivery.farewell_plain _ fun clean hclean => ?_
        exact h.plain hstage clean (hclean ▸ hkept)
      | some c => exact Delivery.farewell_of_reason _ (hstands.2.symm.trans hkept)
    have hcalls : (s.afterDelivery d).hookCalls =
        plan.setting.heard (reason.farewell plan.setting.session) := by
      show d.outlet.journal.filter Entry.isHook = _
      rw [hjournal, List.filter_append]
      have hnone : s.delivery.outlet.journal.filter Entry.isHook = [] := hs.hooks
      have hsame : s.delivery.isClosed = s.isClosed := rfl
      rw [hnone, hsame, hfarewell, CloseReason.filter_heard_farewell, List.nil_append]
    have hparting : Parting plan reason s d :=
      ⟨⟨hs.lifecycle.phase, hs.lifecycle.watched, hs.lifecycle.events⟩, hkept, hcalls⟩
    rw [deliver_flow plan hprocess]
    exact .inr ⟨reason, d, hparting, rfl, hparting.heard hs.published hphase⟩

/-! ## Steps -/

/-- A driver that reports a reason has closed its stream for that reason. -/
theorem IsOrderly.closed_phase (h : s.IsOrderly) (hr : s.closed? = some reason) :
    s.lifecycle.phase = .closed ∧ s.lifecycle.closeReason = some reason := by
  unfold closed? at hr
  split at hr
  · next hs =>
    cases hr
    exact h.stands hs
  all_goals cases hr

/-- A driver that has closed its stream leaves. -/
theorem IsOrderly.closed_driver (h : s.IsOrderly) (hclosed : s.lifecycle.phase = .closed)
    (hm : DriverMove plan s s') :
    (∃ r, s' = { s with stage := .leaving r }) ∨
      ∃ r, s' = { s with poller := s.poller.stop, stage := .finished r } := by
  have hwaiting : ∀ poll, s.stage ≠ .waiting poll := by
    intro poll hs
    cases hclosed.symm.trans (h.waiting hs).1
  cases hm with
  | close => exact .inl ⟨_, rfl⟩
  | leave => exact .inr ⟨_, rfl⟩
  | start hs | fetch hs => cases hclosed.symm.trans (h.stands hs).1
  | wait hs => exact absurd hs h.ne_wait
  | deliver hs =>
    have hphase := (h.deliver hs).1
    rw [hclosed] at hphase
    simp at hphase
  | requestClose hs | poll hs | consume hs | crash hs | health hs => exact absurd hs (hwaiting _)

/-- A closed stream stays as it is, in all that the hooks and the observers know of it. -/
theorem Heard.step (h : Heard plan reason s) (ho : s.IsOrderly) (hs : Step plan s s') :
    Heard plan reason s' := by
  cases hs with
  | driver hm =>
    rcases ho.closed_driver h.lifecycle.phase (.of_move hm) with ⟨r, rfl⟩ | ⟨r, rfl⟩
    · exact ⟨h.lifecycle, h.hooks, h.published⟩
    · exact ⟨h.lifecycle, h.hooks, h.published⟩
  | worker hm =>
    obtain ⟨poller, scene, hp, rfl⟩ := moveWorker_eq hm
    exact ⟨h.lifecycle, (Poller.hookCalls_moveWorker hp).trans h.hooks, h.published⟩
  | turn | time | close => exact ⟨h.lifecycle, h.hooks, h.published⟩

/-- An open stream stays open without a word to the hooks, or closes by a last delivery. -/
theorem Faithful.unheard_step (hhooks : plan.setting.HooksReturn) (h : Faithful plan s)
    (hu : s.Unheard) (hs : Step plan s s') :
    s'.Unheard ∨ ∃ reason d, Parting plan reason s d ∧
      s' = (s.afterDelivery d).proceed ((s.afterDelivery d).lifecycle.delivered .stop s.now) ∧
      Heard plan reason s' := by
  cases hs with
  | driver hm =>
    cases DriverMove.of_move hm with
    | start => exact .inl (hu.proceed (hu.lifecycle.start s.now) _)
    | deliver hstage => exact (h.delivery hhooks hu hstage).imp_left (·.1)
    | wait | requestClose => exact .inl (hu.proceed hu.lifecycle.requestClose _)
    | poll _ _ hmove => exact .inl (hu.withPoll (by rw [hmove]; rfl))
    | @consume poll o p _ _ hmove =>
      have hpoll : (s.withPoll p).Unheard := hu.withPoll (by rw [hmove]; rfl)
      exact .inl (hpoll.consume o)
    | @crash poll p _ _ hmove =>
      have hpoll : (s.withPoll p).Unheard := hu.withPoll (by rw [hmove]; rfl)
      exact .inl ⟨hpoll.lifecycle, hpoll.isClosed, hpoll.hooks, hpoll.published⟩
    | health => exact .inl hu.fireHealth
    | fetch | close | leave => exact .inl ⟨hu.lifecycle, hu.isClosed, hu.hooks, hu.published⟩
  | worker hm =>
    obtain ⟨poller, scene, hp, rfl⟩ := moveWorker_eq hm
    exact .inl ⟨hu.lifecycle, hu.isClosed, (Poller.hookCalls_moveWorker hp).trans hu.hooks,
      hu.published⟩
  | turn | time | close => exact .inl ⟨hu.lifecycle, hu.isClosed, hu.hooks, hu.published⟩

/-- When a driver comes to deliver the end without a chunk, no notice gave the reason. -/
theorem Faithful.plain_driver (h : Faithful plan s) (hm : DriverMove plan s s')
    (hstage : s'.stage = .executing (.deliver none)) (clean : Bool) :
    s'.lifecycle.closeReason ≠ some (.shutdown clean) := by
  have ho := h.kept.orderly
  cases hm with
  | start hs =>
    rw [s.lifecycle.start_eq (ho.starting hs).1] at hstage
    cases hstage
  | deliver hs =>
    rcases deliver_cases plan s _ with ⟨d, flow, l, command, hr, -, heq⟩ | ⟨d, heq⟩
    · rw [heq] at hstage
      have hcommand : command = .deliver none := Stage.executing.inj hstage
      subst hcommand
      exact absurd rfl hr.ne_deliver
    · rw [heq] at hstage
      cases hstage
  | wait hs => exact absurd hs ho.ne_wait
  | requestClose hs =>
    obtain ⟨hphase, hnone⟩ := ho.waiting hs
    rw [s.lifecycle.requestClose_eq (by rw [hphase]; decide), hnone]
    exact nofun
  | @consume poll o p hs =>
    obtain ⟨hphase, hnone⟩ := ho.waiting hs
    generalize hreceive : (s.withPoll p).lifecycle.receive o (s.withPoll p).now = step
    obtain ⟨l, result⟩ := step
    cases result with
    | ok command =>
      rw [consume_ok hreceive] at hstage ⊢
      have hcommand : command = .deliver none := Stage.executing.inj hstage
      subst hcommand
      exact Lifecycle.receive_end hphase hnone hreceive clean
    | error fault =>
      rw [consume_fault hreceive] at hstage
      cases hstage
  | health hs =>
    obtain ⟨l, published, heq, -⟩ := s.fireHealth_eq
    rw [heq] at hstage
    cases hs.symm.trans hstage
  | fetch | close | poll | crash | leave => cases hstage

theorem Faithful.step (hhooks : plan.setting.HooksReturn) (h : Faithful plan s)
    (hs : Step plan s s') : Faithful plan s' where
  kept := h.kept.step hs
  plain := by
    cases hs with
    | driver hm => exact h.plain_driver (.of_move hm)
    | worker hm =>
      obtain ⟨poller, scene, -, rfl⟩ := moveWorker_eq hm
      exact h.plain
    | turn | time | close => exact h.plain
  told := by
    rcases h.told with hu | ⟨reason, hheard⟩
    · rcases h.unheard_step hhooks hu hs with hu' | ⟨reason, d, -, -, hheard⟩
      · exact .inl hu'
      · exact .inr ⟨reason, hheard⟩
    · exact .inr ⟨reason, hheard.step h.kept.orderly hs⟩

theorem Faithful.reach (hhooks : plan.setting.HooksReturn) (h : Faithful plan s)
    (hr : Reach plan s s') : Faithful plan s' := by
  induction hr with
  | refl => exact h
  | tail _ hstep ih => exact ih.step hhooks hstep

theorem faithful_start {c : Client} {isThreaded : Bool} {scene : Scene} {s₀ : Stream}
    (h : c.start isThreaded .empty = (.ok s₀, scene)) : Faithful c.plan s₀ := by
  have hkept := kept_start h
  obtain ⟨poller, rfl, hpoller⟩ := c.start_ok h
  have hhooks : scene.outlet.hookCalls = [] := by
    rcases hpoller with ⟨-, rfl⟩ | ⟨-, rfl⟩
    · rfl
    · exact c.server.hookCalls_connect .empty
  exact ⟨hkept, nofun, .inl ⟨.ofOptions c.options, rfl, hhooks, nofun⟩⟩

/-- A stream that has ended has called the hooks as its reason says. -/
theorem hookCalls_of_closed {c : Client} {isThreaded : Bool} {scene : Scene} {s₀ : Stream}
    (hhooks : c.setting.HooksReturn) (hstart : c.start isThreaded .empty = (.ok s₀, scene))
    (hr : Reach c.plan s₀ s) (hclosed : s.closed? = some reason) :
    s.hookCalls = c.setting.heard (reason.farewell c.setting.session) := by
  have h : Faithful c.plan s := (faithful_start hstart).reach hhooks hr
  obtain ⟨hphase, hreason⟩ := h.kept.orderly.closed_phase hclosed
  rcases h.told with hu | ⟨told, hheard⟩
  · exact absurd hphase hu.lifecycle.phase
  · cases hheard.lifecycle.kept.symm.trans hreason
    exact hheard.hooks

/-! ## Main statement -/

/-- Someone outside can tell that the stream has ended: by the phase that is shown, by an event, or
by what the driver reports. -/
def ShowsEnd (s : Stream) : Prop :=
  s.lifecycle.watched.value = .closed ∨ (∃ p ∈ s.published, p.event.isEnd = true) ∨
    s.closed?.isSome = true

theorem Unheard.not_showsEnd (h : s.Unheard) (ho : s.IsOrderly) : ¬ s.ShowsEnd := by
  rintro (hwatched | ⟨p, hp, hend⟩ | hreport)
  · exact h.lifecycle.watched hwatched
  · rw [h.published p hp] at hend
    cases hend
  · obtain ⟨r, hr⟩ := Option.isSome_iff_exists.mp hreport
    exact h.lifecycle.phase (ho.closed_phase hr).1

/-- Whoever learns that a stream has ended, in whatever way and whenever, does so after the hooks
were called, each as often and in the order that goes with the reason; before, none is called. -/
theorem hooks_told {c : Client} {isThreaded : Bool} {scene : Scene} {s₀ s : Stream}
    (hhooks : c.setting.HooksReturn) (hstart : c.start isThreaded .empty = (.ok s₀, scene))
    (hr : Reach c.plan s₀ s) :
    (¬ s.ShowsEnd → s.hookCalls = []) ∧
    (s.ShowsEnd → ∃ reason, s.lifecycle.closeReason = some reason ∧
      s.hookCalls = c.setting.heard (reason.farewell c.setting.session) ∧
      (∀ r, s.closed? = some r → r = reason) ∧
      ∀ p ∈ s.published, ∀ r, p.event = .closed r → r = reason) ∧
    ∀ s', Step c.plan s s' → ¬ s.ShowsEnd → s'.ShowsEnd → ∃ d : Delivery,
      s' = (s.afterDelivery d).proceed ((s.afterDelivery d).lifecycle.delivered .stop s.now) ∧
      ¬ (s.afterDelivery d).ShowsEnd ∧ (s.afterDelivery d).hookCalls = s'.hookCalls := by
  have h : Faithful c.plan s := (faithful_start hstart).reach hhooks hr
  have ho := h.kept.orderly
  rcases h.told with hu | ⟨reason, hheard⟩
  · have hhidden := hu.not_showsEnd ho
    refine ⟨fun _ => hu.hooks, fun hshows => absurd hshows hhidden, fun s' hstep _ hshows => ?_⟩
    rcases h.unheard_step hhooks hu hstep with hu' | ⟨reason, d, hparting, heq, hheard⟩
    · exact absurd hshows (hu'.not_showsEnd (h.step hhooks hstep).kept.orderly)
    · refine ⟨d, heq, ?_, hparting.hooks.trans hheard.hooks.symm⟩
      rintro (hwatched | hend | hreport)
      · exact hparting.lifecycle.watched hwatched
      · exact hhidden (.inr (.inl hend))
      · exact hhidden (.inr (.inr hreport))
  · have hshows : s.ShowsEnd := .inl hheard.lifecycle.watched
    refine ⟨fun hhidden => absurd hshows hhidden, fun _ => ?_,
      fun s' _ hhidden => absurd hshows hhidden⟩
    refine ⟨reason, hheard.lifecycle.kept, hheard.hooks, fun r hreport => ?_, hheard.published⟩
    exact Option.some.inj ((ho.closed_phase hreport).2.symm.trans hheard.lifecycle.kept)

end Stream

/-- A client whose server shuts down cleanly, and whose hooks return. -/
def Client.dismissed : Client where
  server := {
    endpoint := Builder.inProcess
    session := ⟨"console"⟩
    connection := none
    call := fun _ => ⟨3, .answer (.ok (some (.batch [.text "bye", .shutdown true])))⟩ }
  setting := ⟨⟨"console"⟩, .standard, some Buffer.display, some fun _ _ => false⟩
  options := Options.default.withOffload .always

namespace Stream

/-- The server shuts down in the middle of a batch; the hooks are told of the notice, the unload and
the close. -/
theorem hooks_told_brief :
    ∃ s, Reach Client.dismissed.plan (.ofOptions Client.dismissed.options .pending .empty) s ∧
      s.closed? = some (.shutdown true) ∧
      s.hookCalls = [.suppressed, .unloaded ⟨"console"⟩, .closed] := by
  have hhooks : Client.dismissed.setting.HooksReturn := by
    rintro panics hpanics journal e
    cases hpanics
    rfl
  have hstart : Client.dismissed.start true .empty =
      (.ok (.ofOptions Client.dismissed.options .pending .empty), .empty) := rfl
  have hr := Rehearsal.reach_runUntil Client.dismissed.plan 1000 100 10
    ⟨.ofOptions Client.dismissed.options .pending .empty, true, true, []⟩
  have hclosed : (Rehearsal.runUntil Client.dismissed.plan 1000 100 10
      ⟨.ofOptions Client.dismissed.options .pending .empty, true, true, []⟩).1.stream.closed? =
        some (.shutdown true) := by decide +kernel
  obtain ⟨reason, -, hcalls, hreason, -⟩ :=
    (hooks_told hhooks hstart hr).2.1 (.inr (.inr (by rw [hclosed]; rfl)))
  have hshutdown := hreason _ hclosed
  subst hshutdown
  exact ⟨_, hr, hclosed, hcalls⟩

end Stream

end RemoteConsole
