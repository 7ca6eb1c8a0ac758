import Mathlib.Algebra.GroupWithZero.Nat
import Mathlib.Algebra.Order.BigOperators.Group.List
import Mathlib.Algebra.Order.Group.Nat
import RemoteConsole.Proofs.Poller.Errand
import RemoteConsole.Proofs.Stream.Output

/-!
# Retries that are waited out

* `Publication.pause`: the delays that are announced by publications.
* `Stream.Patient plan T s`: the stream takes no outcome before `T`.
* `Stream.Advance plan T s s'`: what a step does that a patient stream takes: it takes an outcome
  not before `T`, unless its worker is gone because a fetch broke off, and is patient again, for
  the delays that it announces. `Patient.step`: every step is one.
* `Patient.reach`, `paid_reach`: so are any number of steps, and the delays add up.
* `Stream.retries_waited_out`: a delay that is announced is waited out, but for a worker that is
  gone.
-/

namespace RemoteConsole

/-- The delay that an event announces. -/
def Event.delay : Event → Nat
  | .retryScheduled delay _ _ => delay
  | .phaseChanged _ _ => 0
  | .healthChanged _ => 0
  | .closed _ => 0

/-- All the delays that publications announce. -/
def Publication.pause (ps : List Publication) : Nat := (ps.map fun p => p.event.delay).sum

/-- The delay of the fetch that is to be begun. -/
def Stage.delay : Stage → Nat
  | .executing (.fetch delay) => delay
  | _ => 0

namespace Stream

/-- The stream takes no outcome before `T`, unless its worker is gone. -/
structure Patient (plan : Plan) (T : Nat) (s : Stream) : Prop where
  quiet : s.stage ≠ .crashed → s.lifecycle.events = []
  polls : ∀ poll, s.stage = .waiting poll →
    Poller.Errand plan.server s.scene s.lifecycle.failures T s.now s.poller poll
  rests : s.lifecycle.closeReason = none → s.stage ≠ .crashed → (∀ poll, s.stage ≠ .waiting poll) →
    s.poller.Rests plan.server s.scene s.lifecycle.failures T (s.now + s.stage.delay)

/-- The outcome is the failure of a worker that is gone because a fetch broke off. -/
def Bereft (plan : Plan) (s : Stream) (o : Outcome) : Prop :=
  o = .error Worker.stopped ∧ s.poller ≠ .direct ∧ plan.server.Panicked s.scene.calls

/-- What a step does that a patient stream takes: the outcomes that it takes, and what it publishes.
Only a step that takes an outcome announces a delay or gives up. -/
structure Advance (plan : Plan) (T : Nat) (s s' : Stream) (taken : List (Nat × Outcome))
    (new : List Publication) : Prop where
  consumed : s'.consumed = s.consumed ++ taken
  published : s'.published = s.published ++ new
  now : s.now ≤ s'.now
  late : ∀ x ∈ taken, x.1 = s.now ∧ (T ≤ s.now ∨ s.Bereft plan x.2)
  told : ∀ p ∈ new, p.time = s.now
  patient : ∀ T', T' ≤ T ∨ T' ≤ s.now + Publication.pause new → Patient plan T' s'
  pause : taken = [] → Publication.pause new = 0
  reason : ∀ e, s'.lifecycle.closeReason = some (.retriesExhausted e) →
    Publication.pause new = 0 ∧ (taken = [] → s.lifecycle.closeReason = some (.retriesExhausted e))

variable {plan : Plan} {T T' : Nat} {s s' : Stream}

/-! ## Single steps -/

/-- A step that takes and publishes nothing. -/
theorem Advance.still (hconsumed : s'.consumed = s.consumed)
    (hpublished : s'.published = s.published) (hnow : s.now ≤ s'.now)
    (hpatient : ∀ T', T' ≤ T ∨ T' ≤ s.now → Patient plan T' s')
    (hreason : s'.lifecycle.closeReason = s.lifecycle.closeReason) :
    Advance plan T s s' [] [] where
  consumed := by rw [hconsumed, List.append_nil]
  published := by rw [hpublished, List.append_nil]
  now := hnow
  late := nofun
  told := nofun
  patient := hpatient
  pause _ := rfl
  reason e he := ⟨rfl, fun _ => hreason ▸ he⟩

theorem patient_crashed (h : s.stage = .crashed) (T : Nat) : Patient plan T s where
  quiet hne := absurd h hne
  polls poll hs := by rw [h] at hs; cases hs
  rests _ hne := absurd h hne

/-- The lifecycle has moved on: its events are published, and the poller rests. -/
theorem patient_proceed {l : Lifecycle} {command : Command}
    (hrests : l.closeReason = none → s.poller.Rests plan.server s.scene l.failures T
      (s.now + (Stage.executing command).delay)) : Patient plan T (s.proceed (l, command)) where
  quiet _ := rfl
  polls poll hs := by cases hs
  rests hnone _ _ := hrests hnone

theorem pause_proceed (s : Stream) (l : Lifecycle) (command : Command) :
    ∃ new, (s.proceed (l, command)).published = s.published ++ new ∧
      (∀ p ∈ new, p.time = s.now) ∧ Publication.pause new = (l.events.map Event.delay).sum := by
  refine ⟨l.events.map fun e => ⟨e, s.now, s.turns / turnsPerRound⟩, rfl, ?_, ?_⟩
  · intro p hp
    obtain ⟨e, -, rfl⟩ := List.mem_map.mp hp
    rfl
  · unfold Publication.pause
    rw [List.map_map]
    rfl

theorem calmed_delay (l : Lifecycle) : (l.calmed.map Event.delay).sum = 0 := by
  unfold Lifecycle.calmed
  split <;> rfl

/-- A step by which the lifecycle moves on without an outcome. -/
theorem advance_proceed {s₁ : Stream} {l : Lifecycle} {command : Command}
    (hconsumed : s₁.consumed = s.consumed) (hpublished : s₁.published = s.published)
    (hnow : s₁.now = s.now) (hdelay : (l.events.map Event.delay).sum = 0)
    (hrests : l.closeReason = none → ∀ T', T' ≤ T ∨ T' ≤ s.now → ∀ t, s.now ≤ t →
      s₁.poller.Rests plan.server s₁.scene l.failures T' t)
    (hreason : ∀ e, l.closeReason = some (.retriesExhausted e) →
      s.lifecycle.closeReason = some (.retriesExhausted e)) :
    ∃ new, Advance plan T s (s₁.proceed (l, command)) [] new := by
  obtain ⟨new, hnew, htold, hpause⟩ := pause_proceed s₁ l command
  rw [hpublished] at hnew
  rw [hdelay] at hpause
  refine ⟨new, ⟨?_, hnew, Nat.le_of_eq hnow.symm, nofun, hnow ▸ htold, ?_, fun _ => hpause,
    fun e he => ⟨hpause, fun _ => hreason e he⟩⟩⟩
  · rw [List.append_nil]; exact hconsumed
  · intro T' hT'
    rw [hpause] at hT'
    exact patient_proceed fun hnone => hrests hnone T' hT' _ (by omega)

/-- A poller that rests may begin a fetch at any later time. -/
theorem Patient.rests_at (h : Patient plan T s) (hnone : s.lifecycle.closeReason = none)
    (hcrashed : s.stage ≠ .crashed) (hidle : ∀ poll, s.stage ≠ .waiting poll)
    (hdelay : s.stage.delay = 0) {scene : Scene} (hcalls : scene.calls = s.scene.calls)
    (hT' : T' ≤ T ∨ T' ≤ s.now) {t : Nat} (ht : s.now ≤ t) :
    s.poller.Rests plan.server scene s.lifecycle.failures T' t := by
  have hrests := h.rests hnone hcrashed hidle
  rw [hdelay] at hrests
  exact hrests.mono (Nat.le_of_eq hcalls.symm) (by omega)

/-- What the lifecycle does with an outcome: the delay that it announces is that of its command, and
it counts the errors in a row. -/
theorem received {l l' : Lifecycle} {o : Outcome} {now : Nat} {command : Command}
    (hr : l.Response (.receive o now) l' (.command command)) (hphase : l.phase = .polling)
    (hreason : l.closeReason = none) (hquiet : l.events = []) :
    (l'.events.map Event.delay).sum = (Stage.executing command).delay ∧
      (l'.closeReason ≠ none → (Stage.executing command).delay = 0) ∧
      (l'.closeReason = none → l'.failures = tally l.failures o ∧
        (l.failures = Lifecycle.lastFailure → o ≠ .error Worker.stopped)) := by
  cases hr with
  | ignored hi => simp [Input.isHeard, hphase] at hi
  | brought =>
    refine ⟨?_, fun _ => rfl, fun _ => ⟨rfl, fun _ => by simp⟩⟩
    simp [hquiet, calmed_delay, Event.delay, Stage.delay]
  | failedLast =>
    refine ⟨?_, fun _ => rfl, by simp⟩
    simp [hquiet, Event.delay, Stage.delay]
  | retried _ hcount =>
    refine ⟨?_, fun hne => absurd hreason hne, fun _ => ⟨rfl, fun hlast => absurd hlast hcount⟩⟩
    simp [hquiet, Event.delay, Stage.delay]

/-- The driver takes an outcome. -/
theorem Patient.consume {poll : Poll} {p : Poller.State} {o : Outcome}
    (hcapacity : 0 < plan.workerCapacity) (h : Patient plan T s) (hs : s.stage = .waiting poll)
    (hphase : s.lifecycle.phase = .polling) (hreason : s.lifecycle.closeReason = none)
    (hm : Poller.move plan.server plan.workerCapacity s.now (s.poller, poll, s.scene) =
      .ready o p) :
    ∃ taken new, Advance plan T s ((s.withPoll p).consume o) taken new := by
  have hkeeps := (h.polls poll hs).keeps hcapacity (.of_move hm nofun)
  have hlate : ∀ x ∈ [(s.now, o)], x.1 = s.now ∧ (T ≤ s.now ∨ s.Bereft plan x.2) := by
    intro x hx
    rw [List.mem_singleton.mp hx]
    rcases hkeeps with ⟨ht, -⟩ | ⟨ho, hp, hpanic, -⟩
    · exact ⟨rfl, .inl ht⟩
    · exact ⟨rfl, .inr ⟨ho, hp, hpanic⟩⟩
  refine ⟨[(s.now, o)], ?_⟩
  rcases (s.withPoll p).consume_cases o with ⟨l, command, hr, heq⟩ | ⟨l, fault, hr, heq⟩
  · obtain ⟨new, hnew, htold, hpause⟩ := pause_proceed ((s.withPoll p).taking o) l command
    obtain ⟨hdelay, hlast, hopen⟩ := received hr hphase hreason (h.quiet (by rw [hs]; nofun))
    rw [hdelay] at hpause
    rw [heq]
    refine ⟨new, rfl, hnew, Nat.le_refl _, hlate, htold,
      fun T' hT' => patient_proceed fun hnone => ?_, nofun, fun e he => ⟨?_, nofun⟩⟩
    · obtain ⟨hfailures, hfull⟩ := hopen hnone
      rw [hpause] at hT'
      rw [hfailures]
      rcases hkeeps with ⟨ht, hrest | ⟨hlast, ho⟩⟩ | ⟨-, -, -, hgone⟩
      · exact hrest _ _ (by show T' ≤ s.now + _; omega)
      · exact absurd ho (hfull hlast)
      · exact hgone _ _
    · rw [hpause]
      refine hlast fun hnone => ?_
      have he' : l.closeReason = some (.retriesExhausted e) := he
      rw [hnone] at he'
      cases he'
  · rw [heq]
    exact ⟨[], rfl, (List.append_nil _).symm, Nat.le_refl _, hlate, nofun,
      fun T' _ => patient_crashed rfl T', fun _ => rfl, fun e he => ⟨rfl, nofun⟩⟩

/-- The driver reports a delivery. -/
theorem Patient.deliver {chunk : Option Chunk} (h : Patient plan T s)
    (hs : s.stage = .executing (.deliver chunk)) :
    ∃ new, Advance plan T s (s.deliver plan chunk) [] new := by
  have hquiet : s.lifecycle.events = [] := h.quiet (by rw [hs]; nofun)
  rcases deliver_cases plan s chunk with ⟨d, flow, l, command, hr, -, heq⟩ | ⟨d, heq⟩
  · rw [heq]
    have hcalls : (s.afterDelivery d).scene.calls = s.scene.calls := rfl
    have hrests : s.lifecycle.closeReason = none → ∀ T', T' ≤ T ∨ T' ≤ s.now → ∀ t, s.now ≤ t →
        s.poller.Rests plan.server (s.afterDelivery d).scene s.lifecycle.failures T' t :=
      fun hnone T' hT' t ht =>
        h.rests_at hnone (by rw [hs]; nofun) (by rw [hs]; nofun) (by rw [hs]; rfl) hcalls hT' ht
    cases hr with
    | ignored =>
      exact advance_proceed rfl rfl rfl (by simp [afterDelivery, hquiet]) hrests fun _ => id
    | continued =>
      exact advance_proceed rfl rfl rfl (by simp [afterDelivery, hquiet, Event.delay]) hrests
        fun _ => id
    | closed =>
      refine advance_proceed rfl rfl rfl ?_ nofun fun e he => ?_
      · simp [afterDelivery, hquiet, calmed_delay, Event.delay]
      · have hkept : s.lifecycle.closeReason.getD .serverClosed = .retriesExhausted e :=
          Option.some.inj he
        cases hreason : s.lifecycle.closeReason with
        | none => rw [hreason] at hkept; cases hkept
        | some reason => rw [hreason] at hkept; exact congrArg some hkept
  · rw [heq]
    exact ⟨[], .still rfl rfl (Nat.le_refl _) (fun T' _ => patient_crashed rfl T') rfl⟩

theorem Patient.driver (hcapacity : 0 < plan.workerCapacity) (h : Patient plan T s)
    (ho : s.IsOrderly) (hm : DriverMove plan s s') :
    ∃ taken new, Advance plan T s s' taken new := by
  have hstands := ho
  unfold IsOrderly at hstands
  cases hm with
  | start hs =>
    rw [hs] at hstands
    have hquiet : s.lifecycle.events = [] := h.quiet (by rw [hs]; nofun)
    have hpolling : s.lifecycle.phase ≠ .polling := by rw [hstands.1]; decide
    rw [s.lifecycle.start_eq hstands.1, s.lifecycle.enterPolling_eq hpolling]
    refine ⟨[], advance_proceed rfl rfl rfl ?_ (fun hnone T' hT' t ht => ?_) fun _ => id⟩
    · simp [hquiet, Event.delay]
    · exact h.rests_at hnone (by rw [hs]; nofun) (by rw [hs]; nofun) (by rw [hs]; rfl) rfl hT' ht
  | @fetch delay hs =>
    refine ⟨[], [], .still rfl rfl (Nat.le_refl _) (fun T' hT' => ⟨fun _ => ?_, ?_, ?_⟩) rfl⟩
    · exact h.quiet (by rw [hs]; nofun)
    · intro poll hp
      cases hp
      rw [hs] at hstands
      have hrests := h.rests hstands.2 (by rw [hs]; nofun) (by rw [hs]; nofun)
      rw [hs] at hrests
      refine .fresh (hrests.mono (Nat.le_refl _) fun hle => ?_)
      have hle' : T ≤ s.now + delay := hle
      show T' ≤ s.now + delay
      omega
    · exact fun _ _ hne => absurd rfl (hne _)
  | deliver hs =>
    obtain ⟨new, hnew⟩ := h.deliver hs
    exact ⟨[], new, hnew⟩
  | close hs =>
    rw [hs] at hstands
    refine ⟨[], [], .still rfl rfl (Nat.le_refl _) ?_ rfl⟩
    refine fun T' _ => ⟨fun _ => ?_, nofun, fun hnone => ?_⟩
    · exact h.quiet (by rw [hs]; nofun)
    · cases hstands.2.symm.trans hnone
  | wait hs => rw [hs] at hstands; exact absurd hstands id
  | requestClose hs hc =>
    obtain ⟨hphase, hnone⟩ := ho.waiting hs
    have hquiet : s.lifecycle.events = [] := h.quiet (by rw [hs]; nofun)
    rw [s.lifecycle.requestClose_eq (by rw [hphase]; decide), hnone]
    refine ⟨[], advance_proceed rfl rfl rfl ?_ nofun nofun⟩
    rw [hquiet]; rfl
  | @poll poll p hs hc hmove =>
    have hkeeps := (h.polls _ hs).keeps hcapacity (.of_move hmove nofun)
    refine ⟨[], [], .still rfl rfl (Nat.le_refl _) (fun T' hT' => ⟨fun _ => ?_, ?_, ?_⟩) rfl⟩
    · exact h.quiet (by rw [hs]; nofun)
    · intro poll' hp
      cases hp
      exact Poller.Errand.mono hkeeps (Nat.le_refl _) (Nat.le_refl _) hT'
    · exact fun _ _ hne => absurd rfl (hne _)
  | consume hs hc hmove => exact h.consume hcapacity hs (ho.waiting hs).1 (ho.waiting hs).2 hmove
  | crash hs hc hmove =>
    exact ⟨[], [], .still rfl rfl (Nat.le_refl _) (fun T' _ => patient_crashed rfl T') rfl⟩
  | health hs hc hmove hd =>
    have hquiet : s.lifecycle.events = [] := h.quiet (by rw [hs]; nofun)
    have htold : ∀ raised : Bool, ∀ p ∈ (if raised then
        [(⟨.healthChanged true, s.now, s.turns / turnsPerRound⟩ : Publication)] else []),
        p.time = s.now := by
      intro raised p hp
      cases raised <;> simp_all
    have hpause : ∀ raised : Bool, Publication.pause (if raised then
        [(⟨.healthChanged true, s.now, s.turns / turnsPerRound⟩ : Publication)] else []) = 0 := by
      intro raised
      cases raised <;> rfl
    rw [fireHealth_quiet hquiet]
    refine ⟨[], _, (List.append_nil _).symm, rfl, Nat.le_refl _, nofun, htold _, fun T' hT' => ?_,
      fun _ => hpause _, fun e he => ⟨hpause _, fun _ => he⟩⟩
    rw [hpause] at hT'
    refine ⟨fun _ => hquiet, fun poll' hp => ?_, fun _ _ hidle => absurd hs (hidle _)⟩
    exact (h.polls poll' hp).mono (Nat.le_refl _) (Nat.le_refl _) hT'
  | leave hs =>
    rw [hs] at hstands
    refine ⟨[], [], .still rfl rfl (Nat.le_refl _) ?_ rfl⟩
    refine fun T' _ => ⟨fun _ => ?_, nofun, fun hnone => ?_⟩
    · exact h.quiet (by rw [hs]; nofun)
    · cases hstands.2.symm.trans hnone

/-- Patience outlasts time. -/
theorem Patient.later (h : Patient plan T s) (hlifecycle : s'.lifecycle = s.lifecycle)
    (hstage : s'.stage = s.stage) (hscene : s'.scene = s.scene) (hpoller : s'.poller = s.poller)
    (hnow : s.now ≤ s'.now) (hT' : T' ≤ T ∨ T' ≤ s.now) : Patient plan T' s' := by
  refine ⟨?_, ?_, ?_⟩
  · rw [hlifecycle, hstage]
    exact h.quiet
  · rw [hlifecycle, hstage, hscene, hpoller]
    exact fun poll hs => (h.polls poll hs).mono (Nat.le_refl _) hnow (by omega)
  · rw [hlifecycle, hstage, hscene, hpoller]
    exact fun hnone hcrashed hidle => (h.rests hnone hcrashed hidle).mono (Nat.le_refl _) (by omega)

/-- Every step of a stream is an advance. -/
theorem Patient.step (hcapacity : 0 < plan.workerCapacity) (h : Patient plan T s)
    (ho : s.IsOrderly) (hstep : Step plan s s') : ∃ taken new, Advance plan T s s' taken new := by
  cases hstep with
  | driver hm => exact h.driver hcapacity ho (.of_move hm)
  | worker hm =>
    obtain ⟨poller, scene, hp, rfl⟩ := moveWorker_eq hm
    refine ⟨[], [], .still rfl rfl (Nat.le_refl _) (fun T' hT' => ⟨h.quiet, fun poll hs => ?_,
      fun hnone hcrashed hidle => ?_⟩) rfl⟩
    · exact ((h.polls poll hs).moveWorker hp).mono (Nat.le_refl _) (Nat.le_refl _) hT'
    · exact ((h.rests hnone hcrashed hidle).moveWorker hp).mono (Nat.le_refl _) (by
        show T ≤ s.now + s.stage.delay → T' ≤ s.now + s.stage.delay
        omega)
  | turn =>
    exact ⟨[], [], .still rfl rfl (Nat.le_refl _)
      (fun _ => h.later rfl rfl rfl rfl (Nat.le_refl _)) rfl⟩
  | time t =>
    have hnow : s.now ≤ (s.atTime t).now := Nat.le_max_left _ _
    exact ⟨[], [], .still rfl rfl hnow (fun _ => h.later rfl rfl rfl rfl hnow) rfl⟩
  | close =>
    exact ⟨[], [], .still rfl rfl (Nat.le_refl _)
      (fun _ => h.later rfl rfl rfl rfl (Nat.le_refl _)) rfl⟩

/-! ## Any number of steps -/

/-- A step of the driver leaves poller and fetches alone, gives the worker up, or is one of the poll
for which it waits. -/
theorem DriverMove.poller_cases (h : DriverMove plan s s') :
    (s'.poller = s.poller ∨ s'.poller = s.poller.stop) ∧ s'.scene.calls = s.scene.calls ∧
        s'.scene.begun = s.scene.begun ∨
      ∃ poll m r, s.stage = .waiting poll ∧
        Poller.Move plan.server plan.workerCapacity s.now s.scene s.poller poll m ∧
        Poller.after? m = some r ∧ s'.poller = r.1 ∧ s'.scene = r.2.2 := by
  cases h with
  | start | fetch | close | wait | requestClose => exact .inl ⟨.inl rfl, rfl, rfl⟩
  | leave => exact .inl ⟨.inr rfl, rfl, rfl⟩
  | deliver hs =>
    refine .inl ?_
    rcases deliver_cases plan s _ with ⟨d, flow, l, command, -, -, heq⟩ | ⟨d, heq⟩
    · rw [heq]; exact ⟨.inl rfl, rfl, rfl⟩
    · rw [heq]; exact ⟨.inl rfl, rfl, rfl⟩
  | health =>
    obtain ⟨l, published, heq, -⟩ := s.fireHealth_eq
    rw [heq]
    exact .inl ⟨.inl rfl, rfl, rfl⟩
  | poll hs hc hm => exact .inr ⟨_, _, _, hs, .of_move hm nofun, rfl, rfl, rfl⟩
  | crash hs hc hm => exact .inr ⟨_, _, _, hs, .of_move hm nofun, rfl, rfl, rfl⟩
  | @consume poll o p hs hc hm =>
    refine .inr ⟨_, _, _, hs, .of_move hm nofun, rfl, ?_⟩
    rcases (s.withPoll p).consume_cases o with ⟨l, command, -, heq⟩ | ⟨l, fault, -, heq⟩
    · rw [heq]; exact ⟨rfl, rfl⟩
    · rw [heq]; exact ⟨rfl, rfl⟩

/-- No step takes a fetch back, and a stream that fetches by itself goes on to do so. -/
theorem calls_step (hstep : Step plan s s') :
    s.scene.calls ≤ s'.scene.calls ∧ (s.poller = .direct → s'.poller = .direct) := by
  cases hstep with
  | driver hm =>
    rcases (DriverMove.of_move hm).poller_cases with
      ⟨hpoller, hcalls, -⟩ | ⟨poll, m, r, -, hmove, hafter, hpoller, hscene⟩
    · refine ⟨Nat.le_of_eq hcalls.symm, fun hdirect => ?_⟩
      rcases hpoller with hp | hp <;> rw [hp, hdirect]
      rfl
    · rw [hpoller, hscene]
      exact hmove.after_cases hafter
  | worker hm =>
    obtain ⟨poller, scene, hp, rfl⟩ := moveWorker_eq hm
    refine ⟨Poller.moveWorker_calls hp, fun hdirect => ?_⟩
    rw [hdirect] at hp
    cases hp
  | turn | time | close => exact ⟨Nat.le_refl _, id⟩

theorem calls_reach (hreach : Reach plan s s') :
    s.scene.calls ≤ s'.scene.calls ∧ (s.poller = .direct → s'.poller = .direct) := by
  induction hreach with
  | refl => exact ⟨Nat.le_refl _, id⟩
  | tail _ hstep ih =>
    have hnext := calls_step hstep
    exact ⟨ih.1.trans hnext.1, hnext.2 ∘ ih.2⟩

/-- A patient stream takes no outcome early, whatever steps are taken. -/
theorem Patient.reach (hcapacity : 0 < plan.workerCapacity) (hkept : Kept plan s)
    (h : Patient plan T s) (hreach : Reach plan s s') :
    Patient plan T s' ∧ ∃ later, s'.consumed = s.consumed ++ later ∧ ∀ x ∈ later, T ≤ x.1 ∨
      x.2 = .error Worker.stopped ∧ s.poller ≠ .direct ∧ plan.server.Panicked s'.scene.calls := by
  induction hreach with
  | refl => exact ⟨h, [], (List.append_nil _).symm, nofun⟩
  | @tail s₁ s₂ hto hstep ih =>
    obtain ⟨hpatient, later, hconsumed, hlate⟩ := ih
    obtain ⟨taken, new, hadvance⟩ := hpatient.step hcapacity (hkept.reach hto).orderly hstep
    have hcalls := (calls_step hstep).1
    refine ⟨hadvance.patient T (.inl (Nat.le_refl T)), later ++ taken, ?_, fun x hx => ?_⟩
    · rw [hadvance.consumed, hconsumed, List.append_assoc]
    · rcases List.mem_append.mp hx with hx | hx
      · exact (hlate x hx).imp_right fun ⟨ho, hp, hpanic⟩ => ⟨ho, hp, hpanic.mono hcalls⟩
      · obtain ⟨htime, hearly⟩ := hadvance.late x hx
        rcases hearly with ht | ⟨ho, hp, hpanic⟩
        · exact .inl (by omega)
        · exact .inr ⟨ho, fun hdirect => hp ((calls_reach hto).2 hdirect), hpanic.mono hcalls⟩

/-- A stream is patient for every delay that it has announced. -/
theorem patient_published (hcapacity : 0 < plan.workerCapacity) (hkept : Kept plan s)
    (h : Patient plan 0 s) (hnew : s.published = []) (hreach : Reach plan s s') :
    ∀ p ∈ s'.published, Patient plan (p.time + p.event.delay) s' := by
  induction hreach with
  | refl => rw [hnew]; exact nofun
  | @tail s₁ s₂ hto hstep ih =>
    have ho := (hkept.reach hto).orderly
    obtain ⟨taken, new, hadvance⟩ := (h.reach hcapacity hkept hto).1.step hcapacity ho hstep
    intro p hp
    rw [hadvance.published] at hp
    rcases List.mem_append.mp hp with hp | hp
    · exact ((ih p hp).step hcapacity ho hstep).elim fun _ ⟨_, hstill⟩ =>
        hstill.patient _ (.inl (Nat.le_refl _))
    · refine hadvance.patient _ (.inr ?_)
      have hdelay : p.event.delay ≤ Publication.pause new :=
        List.le_sum_of_mem (List.mem_map_of_mem hp)
      rw [hadvance.told p hp]
      omega

/-- The delays that are announced add up: a stream does not give up before they are over. -/
theorem paid_reach (hcapacity : 0 < plan.workerCapacity) (hkept : Kept plan s)
    (h : Patient plan s.now s) (hreach : Reach plan s s') :
    ∃ later, s'.published = s.published ++ later ∧
      (Patient plan (s.now + Publication.pause later) s' ∧
          (∀ e, s'.lifecycle.closeReason = some (.retriesExhausted e) →
            s.now + Publication.pause later ≤ s'.now) ∨
        s.poller ≠ .direct ∧ plan.server.Panicked s'.scene.calls) := by
  induction hreach with
  | refl =>
    refine ⟨[], (List.append_nil _).symm, .inl ⟨h, fun _ _ => Nat.le_refl _⟩⟩
  | @tail s₁ s₂ hto hstep ih =>
    obtain ⟨later, hpublished, hpaid⟩ := ih
    have ho := (hkept.reach hto).orderly
    have hcalls := (calls_step hstep).1
    have happend : ∀ {T taken new}, Advance plan T s₁ s₂ taken new →
        s₂.published = s.published ++ (later ++ new) := by
      intro T taken new hadvance
      rw [hadvance.published, hpublished, List.append_assoc]
    rcases hpaid with ⟨hpatient, hgave⟩ | ⟨hp, hpanic⟩
    · obtain ⟨taken, new, hadvance⟩ := hpatient.step hcapacity ho hstep
      refine ⟨later ++ new, happend hadvance, ?_⟩
      have hsum : Publication.pause (later ++ new) =
          Publication.pause later + Publication.pause new := by
        unfold Publication.pause
        rw [List.map_append, List.sum_append]
      rw [hsum]
      cases taken with
      | nil =>
        -- nothing was taken, so nothing was announced and the stream did not give up
        have hnone := hadvance.pause rfl
        have hnow := hadvance.now
        rw [hnone, Nat.add_zero]
        refine .inl ⟨hadvance.patient _ (.inl (Nat.le_refl _)), fun e he => ?_⟩
        have := hgave e ((hadvance.reason e he).2 rfl)
        omega
      | cons x taken =>
        obtain ⟨-, hearly⟩ := hadvance.late x List.mem_cons_self
        rcases hearly with ht | ⟨-, hp, hpanic⟩
        · refine .inl ⟨hadvance.patient _ (.inr (by omega)), fun e he => ?_⟩
          have hnone := (hadvance.reason e he).1
          have hnow := hadvance.now
          omega
        · exact .inr ⟨fun hdirect => hp ((calls_reach hto).2 hdirect), hpanic.mono hcalls⟩
    · obtain ⟨taken, new, hadvance⟩ := (h.reach hcapacity hkept hto).1.step hcapacity ho hstep
      exact ⟨later ++ new, happend hadvance, .inr ⟨hp, hpanic.mono hcalls⟩⟩

/-! ## Main statement -/

theorem patient_start {c : Client} {isThreaded : Bool} {scene : Scene} {s₀ : Stream}
    (h : c.start isThreaded .empty = (.ok s₀, scene)) :
    Patient c.plan 0 s₀ ∧ s₀.published = [] := by
  obtain ⟨poller, rfl, hpoller⟩ := c.start_ok h
  refine ⟨⟨fun _ => rfl, nofun, fun _ _ _ => ?_⟩, rfl⟩
  rcases hpoller with ⟨rfl, -⟩ | ⟨rfl, -⟩
  · exact .pending rfl (Nat.zero_le _)
  · exact .itself (.inl rfl) (Nat.zero_le _)

/-- In whatever order driver and worker take their steps, whenever a close is asked for, and
whatever the server does: after a retry was announced no outcome is taken before its delay is over,
and a stream that gives up has waited for as long as all the delays that it announced. It is
different only with a worker that is gone because a fetch broke off: the requests to it fail at
once. -/
theorem retries_waited_out {c : Client} {isThreaded : Bool} {scene : Scene} {s₀ s s' : Stream}
    (hvalid : c.options.validate = .ok ()) (hstart : c.start isThreaded .empty = (.ok s₀, scene))
    (hr : Reach c.plan s₀ s) (hr' : Reach c.plan s s') :
    (∃ later, s'.consumed = s.consumed ++ later ∧
      ∀ p ∈ s.published, ∀ delay step code, p.event = .retryScheduled delay step code →
        ∀ x ∈ later, p.time + delay ≤ x.1 ∨ x.2 = .error Worker.stopped ∧
          c.options.offload.offloads isThreaded = true ∧ c.server.Panicked s'.scene.calls) ∧
    ∀ e, s'.lifecycle.closeReason = some (.retriesExhausted e) →
      ∃ later, s'.published = s.published ++ later ∧
        (s.now + Publication.pause later ≤ s'.now ∨
          c.options.offload.offloads isThreaded = true ∧ c.server.Panicked s'.scene.calls) := by
  have hcapacity : 0 < c.plan.workerCapacity := (Options.accepted hvalid).2
  have hkept := kept_start hstart
  obtain ⟨hpatient, hnew⟩ := patient_start hstart
  have hmode : s.poller ≠ .direct → c.options.offload.offloads isThreaded = true := by
    intro hp
    refine Bool.of_not_eq_false fun hmode => hp ?_
    exact (calls_reach hr).2 (Client.start_direct hstart hmode)
  constructor
  · obtain ⟨-, later, hlater, -⟩ := (hpatient.reach hcapacity hkept hr).1.reach hcapacity
      (hkept.reach hr) hr'
    refine ⟨later, hlater, fun p hp delay step code he x hx => ?_⟩
    have hannounced := patient_published hcapacity hkept hpatient hnew hr p hp
    rw [he] at hannounced
    obtain ⟨-, later', hlater', hlate⟩ := hannounced.reach hcapacity (hkept.reach hr) hr'
    obtain rfl : later' = later := List.append_cancel_left (hlater'.symm.trans hlater)
    exact (hlate x hx).imp_right fun ⟨ho, hpoller, hpanic⟩ => ⟨ho, hmode hpoller, hpanic⟩
  · intro e he
    have hnow : Patient c.plan s.now s :=
      (hpatient.reach hcapacity hkept hr).1.later rfl rfl rfl rfl (Nat.le_refl _)
        (.inr (Nat.le_refl _))
    obtain ⟨later, hlater, hpaid⟩ := paid_reach hcapacity (hkept.reach hr) hnow hr'
    refine ⟨later, hlater, ?_⟩
    rcases hpaid with ⟨-, hgave⟩ | ⟨hpoller, hpanic⟩
    · exact .inl (hgave e he)
    · exact .inr ⟨hmode hpoller, hpanic⟩

/-- The short feed begins with an error after three milliseconds, and nothing is taken in the 256
milliseconds after it. -/
theorem retries_waited_out_brief :
    ∃ s s', Reach (Feed.brief.client .always).plan
        (.ofOptions (Feed.brief.client .always).options .pending .empty) s ∧
      Reach (Feed.brief.client .always).plan s s' ∧ s'.closed? = some .serverClosed ∧
      ∃ later, s'.consumed = s.consumed ++ later ∧ later ≠ [] ∧ ∀ x ∈ later, 259 ≤ x.1 := by
  have hr := Rehearsal.reach_runUntil (Feed.brief.client .always).plan 1000 100 2
    ⟨.ofOptions (Feed.brief.client .always).options .pending .empty, true, true, []⟩
  have hr' := Rehearsal.reach_runUntil (Feed.brief.client .always).plan 1000 100 10
    (Rehearsal.runUntil (Feed.brief.client .always).plan 1000 100 2
      ⟨.ofOptions (Feed.brief.client .always).options .pending .empty, true, true, []⟩).1
  have hstart : (Feed.brief.client .always).start true .empty =
      (.ok (.ofOptions (Feed.brief.client .always).options .pending .empty), .empty) := rfl
  obtain ⟨⟨later, hlater, hlate⟩, -⟩ := retries_waited_out rfl hstart hr hr'
  refine ⟨_, _, hr, hr', by decide +kernel, later, hlater, ?_, fun x hx => ?_⟩
  · rintro rfl
    have hlength := congrArg List.length hlater
    revert hlength
    decide +kernel
  · have hmem : (⟨.retryScheduled 256 8 0, 3, 0⟩ : Publication) ∈
        (Rehearsal.runUntil (Feed.brief.client .always).plan 1000 100 2
          ⟨.ofOptions (Feed.brief.client .always).options .pending .empty, true, true,
            []⟩).1.stream.published := by decide +kernel
    rcases hlate _ hmem _ _ _ rfl x hx with hle | ⟨-, -, i, -, hpanic⟩
    · exact hle
    · cases hpanic

/-- A client with one retry, whose first fetch breaks off at once. -/
def breaking : Client where
  server := ⟨⟨"in-process"⟩, ⟨"console"⟩, none, fun _ => ⟨0, .panic⟩⟩
  setting := ⟨⟨"console"⟩, .standard, none, none⟩
  options :=
    (Options.default.withOffload .always).withBackoff (Backoff.Policy.default.withMaxRetries 1)

/-- Its worker is gone, so the retry that it announces fails at once: it gives up without having
waited at all. -/
theorem retry_cut_short :
    breaking.options.validate = .ok () ∧
    ∃ s₀ s s', breaking.start true .empty = (.ok s₀, .empty) ∧ Reach breaking.plan s₀ s ∧
      Reach breaking.plan s s' ∧
      (∃ p ∈ s.published, p.event = .retryScheduled 256 8 0 ∧
        ∃ x ∈ s'.consumed.drop s.consumed.length, x.1 < p.time + 256) ∧
      s'.lifecycle.closeReason = some (.retriesExhausted Worker.stopped) ∧
      s'.now < Publication.pause s'.published := by
  have hr := Schedule.reach_settle breaking.plan 12
    (.ofStream breaking.plan (.ofOptions breaking.options .pending .empty))
  have hr' := Schedule.reach_settle breaking.plan 12
    ((Schedule.ofStream breaking.plan (.ofOptions breaking.options .pending .empty)).settle
      breaking.plan 12)
  rw [Schedule.ofStream_stream] at hr
  exact ⟨rfl, _, _, _, rfl, hr, hr', by decide +kernel, by decide +kernel, by decide +kernel⟩

end Stream

end RemoteConsole
