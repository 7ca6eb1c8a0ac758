import RemoteConsole.Proofs.Lifecycle.Close
import RemoteConsole.Proofs.Lifecycle.Open
import RemoteConsole.Proofs.Stream.Output

/-!
# What is reported of the end

* `Stream.closings`: the reasons that were published for the end of a stream.
* `Stream.Untold`, `Stream.HasTold reason`: nothing tells of the end; it was told, once and for this
  reason, and the driver has only to go. `Untold.step`, `HasTold.step`: a stream goes from the one
  to the other and not back. `told_reach`: there is no third case, also when hooks, servers and
  workers panic.
* `Stream.underway`: the fetches that have begun and may still be answered.
* `Stream.closed_iff`: what those who wait for the end are told when it has come.
-/

namespace RemoteConsole

/-- The reason for the end of which an event tells. -/
def Event.closing? : Event → Option CloseReason
  | .closed reason => some reason
  | .phaseChanged _ _ => none
  | .retryScheduled _ _ _ => none
  | .healthChanged _ => none

/-- The reasons for the end that events tell of. -/
def Event.closings (es : List Event) : List CloseReason := es.filterMap Event.closing?

theorem Event.closing?_eq_none {e : Event} (h : e.isEnd = false) : e.closing? = none := by
  cases e with
  | closed => cases h
  | phaseChanged | retryScheduled | healthChanged => rfl

theorem Lifecycle.IsOpen.closings {l : Lifecycle} (h : l.IsOpen) : Event.closings l.events = [] :=
  List.filterMap_eq_nil_iff.mpr fun e he => Event.closing?_eq_none (h.events e he)

/-- A lifecycle that closes tells why, once. -/
theorem Lifecycle.IsOpen.closings_close {l : Lifecycle} (h : l.IsOpen) :
    Event.closings l.close.1.events = [l.closeReason.getD .serverClosed] := by
  have hcalmed : Event.closings l.calmed = [] := by
    unfold calmed
    split <;> rfl
  rw [l.close_eq h.phase]
  show Event.closings (l.events ++ l.calmed ++ _) = _
  unfold Event.closings at hcalmed ⊢
  rw [List.filterMap_append, List.filterMap_append, hcalmed]
  rw [show l.events.filterMap Event.closing? = [] from h.closings]
  rfl

/-! ## Fetches under way -/

/-- The fetch that a poll waits for. -/
def Poll.underway : Poll → List Fetch
  | .fetching fetch => [fetch]
  | .fresh _ => []
  | .delaying _ => []
  | .requesting _ => []

/-- The fetch that a worker waits for. -/
def Worker.underway (w : Worker) : List Fetch :=
  match w.activity with
  | .fetching fetch => [fetch]
  | .receiving => []
  | .delaying _ => []
  | .reporting _ => []
  | .gone => []

/-- The fetch that the worker waits for, if there is one. -/
def Poller.underway : Poller → List Fetch
  | .running w => w.underway
  | .direct => []
  | .pending => []
  | .fallback => []
  | .stopped => []

/-- A poller has a worker that is not done away with. -/
def Poller.IsManned (p : Poller) : Prop := ∃ w, p = .running w

theorem Poller.not_isManned_stop (p : Poller) : ¬ p.stop.IsManned := by
  rintro ⟨w, hw⟩
  cases p <;> cases hw

/-- Only a worker takes steps. -/
theorem Poller.isManned_of_move {server : Server} {now : Nat} {p : Poller} {s : Scene}
    {r : Poller × Scene} (h : p.moveWorker server now s = some r) : p.IsManned := by
  cases p with
  | running w => exact ⟨w, rfl⟩
  | direct | pending | fallback | stopped => cases h

theorem Poller.underway_eq_nil {p : Poller} (h : ¬ p.IsManned) : p.underway = [] := by
  cases p with
  | running w => exact absurd ⟨w, rfl⟩ h
  | direct | pending | fallback | stopped => rfl

namespace Stream

/-- The fetches that have begun and may still be answered. -/
def underway (s : Stream) : List Fetch :=
  (match s.stage with
    | .waiting poll => poll.underway
    | .starting => []
    | .executing _ => []
    | .leaving _ => []
    | .finished _ => []
    | .crashed => []) ++
  s.poller.underway

/-- The reasons for the end that were published. -/
def closings (s : Stream) : List CloseReason := s.published.filterMap (·.event.closing?)

/-- Nothing tells of the end. -/
structure Untold (s : Stream) : Prop where
  lifecycle : s.lifecycle.IsOpen
  published : ∀ p ∈ s.published, p.event.isEnd = false

/-- The end was told, once and for this reason, and the driver has only to go. -/
structure HasTold (reason : CloseReason) (s : Stream) : Prop where
  phase : s.lifecycle.phase = .closed
  watched : s.lifecycle.watched.value = .closed
  kept : s.lifecycle.closeReason = some reason
  closings : s.closings = [reason]
  stage : s.stage = .executing (.close reason) ∨ s.stage = .leaving reason ∨
    s.stage = .finished reason ∧ ¬ s.poller.IsManned

variable {plan : Plan} {s s' : Stream} {reason : CloseReason}

/-! ## Single steps -/

/-- Of what the lifecycle tells, all is published. -/
theorem told_proceed {α : Type} (f : Event → Option α) (s : Stream) (l : Lifecycle)
    (command : Command) :
    (s.proceed (l, command)).published.filterMap (fun p => f p.event) =
      s.published.filterMap (fun p => f p.event) ++ l.events.filterMap f := by
  unfold proceed publish
  rw [List.filterMap_append, List.filterMap_map]
  rfl

theorem closings_proceed (s : Stream) (l : Lifecycle) (command : Command) :
    (s.proceed (l, command)).closings = s.closings ++ Event.closings l.events :=
  told_proceed Event.closing? s l command

theorem Untold.closings (h : s.Untold) : s.closings = [] :=
  List.filterMap_eq_nil_iff.mpr fun p hp => Event.closing?_eq_none (h.published p hp)

theorem Untold.publish (h : s.Untold) : s.publish.Untold where
  lifecycle := h.lifecycle.drained
  published p hp := by
    rcases List.mem_append.mp hp with hp | hp
    · exact h.published p hp
    · obtain ⟨e, he, rfl⟩ := List.mem_map.mp hp
      exact h.lifecycle.events e he

/-- The lifecycle has moved on and is still open. -/
theorem Untold.proceed (h : s.Untold) {l : Lifecycle} (hl : l.IsOpen) (command : Command) :
    (s.proceed (l, command)).Untold :=
  publish ⟨hl, h.published⟩

/-- The lifecycle closes. -/
theorem Untold.close (h : s.Untold) : ∃ reason, HasTold reason (s.proceed s.lifecycle.close) := by
  have hclosings := closings_proceed s s.lifecycle.close.1 s.lifecycle.close.2
  rw [h.closings, h.lifecycle.closings_close] at hclosings
  rw [s.lifecycle.close_eq h.lifecycle.phase] at hclosings ⊢
  exact ⟨_, rfl, rfl, rfl, hclosings, .inl rfl⟩

theorem Untold.consume (h : s.Untold) (o : Outcome) : (s.consume o).Untold := by
  have hl := h.lifecycle.receive o s.now
  have htaking : (s.taking o).Untold := ⟨h.lifecycle, h.published⟩
  generalize hreceive : s.lifecycle.receive o s.now = step at hl
  obtain ⟨l, result⟩ := step
  cases result with
  | ok command =>
    rw [consume_ok hreceive]
    exact htaking.proceed hl command
  | error fault =>
    rw [consume_fault hreceive]
    exact ⟨hl, h.published⟩

theorem Untold.fireHealth (h : s.Untold) : s.fireHealth.Untold := by
  have hfired : ({ s with lifecycle := (s.lifecycle.fireHealth s.now).1 } : Stream).Untold :=
    ⟨h.lifecycle.fireHealth s.now, h.published⟩
  unfold Stream.fireHealth
  dsimp only
  split
  · exact hfired.publish
  · exact hfired

/-- The lifecycle of a stream that tells nothing of its end closes, and that is published. -/
def Closes (s' : Stream) : Prop := ∃ t : Stream, t.Untold ∧ s' = t.proceed t.lifecycle.close

theorem Closes.hasTold (h : s'.Closes) : ∃ reason, HasTold reason s' := by
  obtain ⟨t, ht, rfl⟩ := h
  exact ht.close

/-- A delivery closes the lifecycle, or tells nothing of the end. -/
theorem Untold.deliver (h : s.Untold) (chunk : Option Chunk) :
    (s.deliver plan chunk).Untold ∨ (s.deliver plan chunk).Closes := by
  generalize hprocess : Delivery.process plan.setting chunk s.delivery = result
  obtain ⟨d, ending⟩ := result
  have hafter : (s.afterDelivery d).Untold :=
    ⟨⟨h.lifecycle.phase, h.lifecycle.watched, h.lifecycle.events⟩, h.published⟩
  cases ending with
  | panicked =>
    rw [deliver_panicked hprocess]
    exact .inl ⟨hafter.lifecycle, hafter.published⟩
  | flow flow =>
    rw [deliver_flow plan hprocess]
    cases flow with
    | «continue» => exact .inl (hafter.proceed (hafter.lifecycle.continued s.now) _)
    | stop =>
      by_cases hidle : (s.afterDelivery d).lifecycle.phase = .idle
      · have hi : (Input.delivered .stop s.now).isHeard (s.afterDelivery d).lifecycle.phase =
            false := by rw [hidle]; rfl
        rw [Lifecycle.delivered_refused _ hi]
        exact .inl (hafter.proceed hafter.lifecycle _)
      · rw [Lifecycle.delivered_stop _ (Lifecycle.running_of_ne hidle hafter.lifecycle.phase)]
        exact .inr ⟨_, hafter, rfl⟩

/-- A stream that has told nothing of its end tells of it by a delivery that closes it. -/
theorem Untold.step_closes (h : s.Untold) (hs : Step plan s s') : s'.Untold ∨ s'.Closes := by
  cases hs with
  | driver hm =>
    cases DriverMove.of_move hm with
    | start => exact .inl (h.proceed (h.lifecycle.start s.now) _)
    | deliver => exact h.deliver _
    | wait | requestClose => exact .inl (h.proceed h.lifecycle.requestClose _)
    | @consume poll o p =>
      have hpoll : (s.withPoll p).Untold := ⟨h.lifecycle, h.published⟩
      exact .inl (hpoll.consume o)
    | health => exact .inl h.fireHealth
    | fetch | close | poll | crash | leave => exact .inl ⟨h.lifecycle, h.published⟩
  | worker hm =>
    obtain ⟨poller, scene, -, rfl⟩ := moveWorker_eq hm
    exact .inl ⟨h.lifecycle, h.published⟩
  | turn | time | close => exact .inl ⟨h.lifecycle, h.published⟩

theorem Untold.step (h : s.Untold) (hs : Step plan s s') :
    s'.Untold ∨ ∃ reason, HasTold reason s' :=
  (h.step_closes hs).imp_right Closes.hasTold

/-- The driver of a stream that has told of its end takes the steps that are left to it. -/
theorem HasTold.driver (h : HasTold reason s) (hm : DriverMove plan s s') : HasTold reason s' := by
  have hleft : ∀ stage, s.stage = stage → stage = .executing (.close reason) ∨
      stage = .leaving reason ∨ stage = .finished reason := by
    rintro stage rfl
    exact h.stage.imp_right (Or.imp_right And.left)
  cases hm with
  | close hs =>
    have hsame := hleft _ hs
    simp only [Stage.executing.injEq, Command.close.injEq, reduceCtorEq, or_false] at hsame
    subst hsame
    exact ⟨h.phase, h.watched, h.kept, h.closings, .inr (.inl rfl)⟩
  | leave hs =>
    have hsame := hleft _ hs
    simp only [Stage.leaving.injEq, reduceCtorEq, or_false, false_or] at hsame
    subst hsame
    exact ⟨h.phase, h.watched, h.kept, h.closings, .inr (.inr ⟨rfl, s.poller.not_isManned_stop⟩)⟩
  | start hs | fetch hs | deliver hs | wait hs | requestClose hs | poll hs | consume hs | crash hs
  | health hs =>
    have hnone := hleft _ hs
    simp at hnone

theorem HasTold.step (h : HasTold reason s) (hs : Step plan s s') : HasTold reason s' := by
  cases hs with
  | driver hm => exact h.driver (.of_move hm)
  | worker hm =>
    obtain ⟨poller, scene, hp, rfl⟩ := moveWorker_eq hm
    refine ⟨h.phase, h.watched, h.kept, h.closings, h.stage.imp_right (Or.imp_right ?_)⟩
    exact fun ⟨_, hunmanned⟩ => absurd (Poller.isManned_of_move hp) hunmanned
  | turn | time | close => exact ⟨h.phase, h.watched, h.kept, h.closings, h.stage⟩

/-! ## Any number of steps -/

theorem HasTold.reach (h : HasTold reason s) (hr : Reach plan s s') : HasTold reason s' := by
  induction hr with
  | refl => exact h
  | tail _ hstep ih => exact ih.step hstep

/-- Nothing tells of the end, or it was told once. -/
theorem told_reach (h : s.Untold) (hr : Reach plan s s') :
    s'.Untold ∨ ∃ reason, HasTold reason s' := by
  induction hr with
  | refl => exact .inl h
  | tail _ hstep ih =>
    rcases ih with hu | ⟨reason, htold⟩
    · exact hu.step hstep
    · exact .inr ⟨reason, htold.step hstep⟩

theorem untold_start {c : Client} {isThreaded : Bool} {scene : Scene} {s₀ : Stream}
    (h : c.start isThreaded .empty = (.ok s₀, scene)) : s₀.Untold := by
  obtain ⟨poller, rfl, -⟩ := c.start_ok h
  exact ⟨.ofOptions c.options, nofun⟩

theorem HasTold.not_isManned (h : HasTold reason s) {final : CloseReason}
    (hdone : s.stage = .finished final) : ¬ s.poller.IsManned := by
  rcases h.stage with hs | hs | ⟨-, hunmanned⟩
  · cases hdone.symm.trans hs
  · cases hdone.symm.trans hs
  · exact hunmanned

/-- A driver that has gone leaves nothing behind that could fetch. -/
theorem HasTold.rests (h : HasTold reason s) (hdone : s.stage = .finished reason)
    (hr : Reach plan s s') : s'.stage = .finished reason ∧ s'.scene = s.scene := by
  induction hr with
  | refl => exact ⟨hdone, rfl⟩
  | tail hto hstep ih =>
    obtain ⟨hstage, hscene⟩ := ih
    cases hstep with
    | driver hm =>
      unfold moveDriver at hm
      rw [hstage] at hm
      cases hm
    | worker hm =>
      obtain ⟨poller, scene, hp, rfl⟩ := moveWorker_eq hm
      exact absurd (Poller.isManned_of_move hp) ((h.reach hto).not_isManned hstage)
    | turn | time | close => exact ⟨hstage, hscene⟩

theorem stage_of_closed? (h : s.closed? = some reason) : s.stage = .finished reason := by
  unfold closed? at h
  split at h
  · next hs => cases h; exact hs
  all_goals cases h

theorem HasTold.closed?_eq_some (h : HasTold reason s) (hover : s.isOver = true) :
    s.closed? = some reason := by
  rcases h.stage with hs | hs | ⟨hs, -⟩
  · simp [isOver, hs] at hover
  · simp [isOver, hs] at hover
  · simp [closed?, hs]

/-- From the word of the end on, nothing holds the driver up. -/
theorem HasTold.ends (h : HasTold reason s) (plan : Plan) :
    s.isOver = true ∨ ∃ s', s.moveDriver plan = some s' ∧
      (s'.isOver = true ∨ ∃ s'', s'.moveDriver plan = some s'' ∧ s''.isOver = true) := by
  have hleave : ∀ s : Stream, s.stage = .leaving reason →
      ∃ s', s.moveDriver plan = some s' ∧ s'.isOver = true :=
    fun s hs => ⟨_, (DriverMove.leave hs).move_eq, rfl⟩
  rcases h.stage with hs | hs | ⟨hs, -⟩
  · exact .inr ⟨_, (DriverMove.close hs).move_eq, .inr (hleave _ rfl)⟩
  · obtain ⟨s', hmove, hover⟩ := hleave s hs
    exact .inr ⟨s', hmove, .inl hover⟩
  · exact .inl (by simp [isOver, hs])

/-- A driver that is over has told of the end and reports it, or has broken off and told nothing. -/
theorem over_cases (h : s.Untold ∨ ∃ reason, HasTold reason s) (ho : s.IsOrderly)
    (hover : s.isOver = true) :
    (∃ reason, HasTold reason s ∧ s.closed? = some reason) ∨
      s.closings = [] ∧ s.closed? = none := by
  rcases h with hu | ⟨reason, htold⟩
  · refine .inr ⟨hu.closings, ?_⟩
    cases hs : s.stage with
    | finished reason => exact absurd (ho.stands hs).1 hu.lifecycle.phase
    | starting | executing | waiting | leaving | crashed => simp [closed?, hs]
  · exact .inl ⟨reason, htold, htold.closed?_eq_some hover⟩

/-! ## Main statement -/

/-- Whatever panics or never answers: those who wait for the end of a stream are told a reason if
and only if that reason and no other was published, and that there is none if and only if none was
published. Once a reason was published, the phase that is shown is the last one, and nothing holds
up the driver. And once someone was told a reason, there is no worker and no fetch under way, and
none begins any more. -/
theorem closed_iff {c : Client} {isThreaded : Bool} {scene : Scene} {s₀ s : Stream}
    (hstart : c.start isThreaded .empty = (.ok s₀, scene)) (hr : Reach c.plan s₀ s) :
    (s.isOver = true →
      (∀ reason, c.closed s = .ok reason ↔ s.closings = [reason]) ∧
      ((∃ message, c.closed s = .error (.breach message)) ↔ s.closings = [])) ∧
    (∀ reason ∈ s.closings, s.closings = [reason] ∧ s.lifecycle.watched.value = .closed ∧
      (s.isOver = true ∨ ∃ s', s.moveDriver c.plan = some s' ∧
        (s'.isOver = true ∨ ∃ s'', s'.moveDriver c.plan = some s'' ∧ s''.isOver = true))) ∧
    ∀ reason, c.closed s = .ok reason → ∀ s', Reach c.plan s s' →
      c.closed s' = .ok reason ∧ ¬ s'.poller.IsManned ∧ s'.underway = [] ∧
        s'.scene.begun = s.scene.begun := by
  have ho : s.IsOrderly := ((kept_start hstart).reach hr).orderly
  have htold := told_reach (untold_start hstart) hr
  refine ⟨fun hover => ?_, fun reason hmem => ?_, fun reason hclosed s' hto => ?_⟩
  · unfold Client.closed
    rcases over_cases htold ho hover with ⟨reason, htold, hreport⟩ | ⟨hnone, hreport⟩
    · rw [hreport, htold.closings]
      simp
    · rw [hreport, hnone]
      simp
  · rcases htold with hu | ⟨reason', htold⟩
    · rw [hu.closings] at hmem
      cases hmem
    · obtain rfl : reason = reason' := by simpa [htold.closings] using hmem
      exact ⟨htold.closings, htold.watched, htold.ends c.plan⟩
  · have hreport : s.closed? = some reason := by
      unfold Client.closed at hclosed
      cases hreport : s.closed? with
      | none => rw [hreport] at hclosed; cases hclosed
      | some r => rw [hreport] at hclosed; cases hclosed; rfl
    have hdone : s.stage = .finished reason := stage_of_closed? hreport
    have hover : s.isOver = true := by simp [isOver, hdone]
    rcases over_cases htold ho hover with ⟨final, htold, hfinal⟩ | ⟨-, hnone⟩
    · cases hreport.symm.trans hfinal
      obtain ⟨hstage, hscene⟩ := htold.rests hdone hto
      have hunmanned := (htold.reach hto).not_isManned hstage
      refine ⟨?_, hunmanned, ?_, by rw [hscene]⟩
      · simp [Client.closed, closed?, hstage]
      · simp [underway, hstage, Poller.underway_eq_nil hunmanned]
    · cases hreport.symm.trans hnone

end Stream

/-- A client without hooks, whose server ends every fetch in this way. -/
def Client.served (reply : Reply) (mode : OffloadMode) : Client where
  server := ⟨⟨"in-process"⟩, ⟨"console"⟩, none, fun _ => ⟨0, reply⟩⟩
  setting := ⟨⟨"console"⟩, .standard, none, none⟩
  options := Options.default.withOffload mode

namespace Stream

/-- A stream is closed while its worker waits for an answer that never comes: that is what is
reported, and there is no worker any more. A stream whose server panics reports no reason. -/
theorem closed_iff_brief :
    (∃ s, Reach (Client.served .hang .always).plan
        (.ofOptions (Client.served .hang .always).options .pending .empty) s ∧
      s.scene.begun = [0] ∧ s.closings = [.requested] ∧
      (Client.served .hang .always).closed s = .ok .requested ∧
      ∀ s', Reach (Client.served .hang .always).plan s s' →
        ¬ s'.poller.IsManned ∧ s'.underway = [] ∧ s'.scene.begun = [0]) ∧
    ∃ s message, Reach (Client.served .panic .never).plan
        (.ofOptions (Client.served .panic .never).options .direct .empty) s ∧
      s.closings = [] ∧ (Client.served .panic .never).closed s = .error (.breach message) := by
  constructor
  · have hr := Rehearsal.reach_runUntil (Client.served .hang .always).plan 1000 100 10
      ⟨.ofOptions (Client.served .hang .always).options .pending .empty, true, true, [(5, .close)]⟩
    refine ⟨_, hr, by decide +kernel, by decide +kernel, ?_⟩
    have hstart : (Client.served .hang .always).start true .empty =
        (.ok (.ofOptions (Client.served .hang .always).options .pending .empty), .empty) := rfl
    obtain ⟨hreport, -, hrest⟩ := closed_iff hstart hr
    have hclosed := ((hreport (by decide +kernel)).1 .requested).mpr (by decide +kernel)
    refine ⟨hclosed, fun s' hto => ?_⟩
    obtain ⟨-, hunmanned, hunderway, hbegun⟩ := hrest _ hclosed s' hto
    exact ⟨hunmanned, hunderway, hbegun.trans (by decide +kernel)⟩
  · have hr := Rehearsal.reach_runUntil (Client.served .panic .never).plan 1000 100 10
      ⟨.ofOptions (Client.served .panic .never).options .direct .empty, true, true, []⟩
    have hstart : (Client.served .panic .never).start false .empty =
        (.ok (.ofOptions (Client.served .panic .never).options .direct .empty), .empty) := rfl
    obtain ⟨hreport, -, -⟩ := closed_iff hstart hr
    obtain ⟨message, hclosed⟩ := (hreport (by decide +kernel)).2.mpr (by decide +kernel)
    exact ⟨_, message, hr, by decide +kernel, hclosed⟩

end Stream

end RemoteConsole
