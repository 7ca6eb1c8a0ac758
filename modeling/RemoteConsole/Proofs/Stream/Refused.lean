import RemoteConsole.Proofs.Poller.Refused
import RemoteConsole.Proofs.Schedule.Next
import RemoteConsole.Proofs.Stream.Parts

/-!
# Streams that are refused, and those that are let in

A stream whose worker cannot connect does what a stream does that is let in and whose fetches fail
with the same error at once. Only the worker of the second takes one step more for each fetch.

* `Plan.Refused plan err`: the server refuses with this error. `Plan.refusing`: the other plan.
* `Stream.posed`: the stream with the poller and the scene of the other.
* `Stream.Poses err s p`: the stream has a worker that was refused or will be, and with the poller
  `p` one that was let in. `Poses.driver`, `Poses.worker`: what the two do.
* `Schedule.next_posed`, `Schedule.done_posed`: so a schedule of the one goes where a schedule of
  the other goes, and is done when that is.
-/

namespace RemoteConsole

/-- The plan has a server that refuses at the first attempt, room for a worker, and hooks that
return. -/
structure Plan.Refused (plan : Plan) (err : FetchError) : Prop where
  refuses : (plan.server.connect .empty).1 = .error err
  pos : 0 < plan.workerCapacity
  orders : plan.workerCapacity ≤ Worker.capacityLimit
  hooks : plan.setting.HooksReturn

/-- The plan with a server that lets in, and whose fetches fail at once. -/
def Plan.refusing (plan : Plan) (err : FetchError) : Plan :=
  { plan with server := plan.server.refusing err }

variable {plan : Plan} {err : FetchError} {s : Stream} {p : Poller} {sc : Scene}

namespace Stream

/-- The stream with a poller and a scene of another. -/
def posed (s : Stream) (p : Poller) (sc : Scene) : Stream := { s with poller := p, scene := sc }

/-- The stream has a worker that was refused or will be, and with the poller `p` it has one that was
let in; or both were given up. Nothing was fetched, and outcomes come after the attempt to
connect. -/
structure Poses (err : FetchError) (s : Stream) (p : Poller) : Prop where
  pollers : Poller.Posing err s.scene.attempts s.poller p ∨
    (∃ reason, s.stage = .finished reason) ∧ s.poller = .stopped ∧ p = .stopped
  polls : ∀ poll, s.stage = .waiting poll → poll.IsRequest
  unfetched : s.scene.calls = 0 ∧ s.scene.begun = []
  counted : s.consumed ≠ [] → s.scene.attempts = 1

/-- The steps of the two: neither can take one, or both do. -/
inductive InPose (err : FetchError) : Option Stream → Option Stream → Prop
  | none : InPose err none none
  | some (s : Stream) {p : Poller} (sc : Scene) (h : Poses err s p) :
      InPose err (some s) (some (s.posed p sc))

/-- A call of the lifecycle touches neither the poller nor the scene. -/
theorem Poses.proceed (h : Poses err s p)
    (hpollers : Poller.Posing err s.scene.attempts s.poller p) (next : Lifecycle × Command) :
    Poses err (s.proceed next) p :=
  ⟨.inl hpollers, nofun, h.unfetched, h.counted⟩

theorem Poses.deliver (hhooks : plan.setting.HooksReturn) (h : Poses err s p)
    (hpollers : Poller.Posing err s.scene.attempts s.poller p) (sc : Scene)
    (chunk : Option Chunk) :
    ∃ sc', (s.posed p sc).deliver (plan.refusing err) chunk =
      (s.deliver plan chunk).posed p sc' ∧ Poses err (s.deliver plan chunk) p := by
  have hcongr := Delivery.process_congr hhooks chunk s.delivery (s.posed p sc).delivery rfl rfl
  have hprocess : Delivery.process (plan.refusing err).setting chunk (s.posed p sc).delivery =
    Delivery.process plan.setting chunk (s.posed p sc).delivery := rfl
  generalize Delivery.process plan.setting chunk (s.posed p sc).delivery = r' at hcongr hprocess
  generalize hd : Delivery.process plan.setting chunk s.delivery = r at hcongr
  obtain ⟨d, ending⟩ := r
  obtain ⟨d', ending'⟩ := r'
  obtain ⟨hclosed, hhealth, hending⟩ := hcongr
  dsimp only at hclosed hhealth hending
  subst hending
  have hafter : (s.posed p sc).afterDelivery d' =
      (s.afterDelivery d).posed p { sc with outlet := d'.outlet } := by
    simp only [afterDelivery, posed, hclosed, hhealth]
  have hposes : Poses err (s.afterDelivery d) p := ⟨h.pollers, h.polls, h.unfetched, h.counted⟩
  cases ending' with
  | flow flow =>
    rw [deliver_flow _ hprocess, deliver_flow _ hd, hafter]
    exact ⟨_, rfl, hposes.proceed hpollers _⟩
  | panicked =>
    rw [deliver_panicked hprocess, deliver_panicked hd, hafter]
    exact ⟨_, rfl, .inl hpollers, nofun, h.unfetched, h.counted⟩

theorem Poses.consume (o : Outcome) (sc : Scene)
    (hpollers : Poller.Posing err s.scene.attempts s.poller p)
    (hunfetched : s.scene.calls = 0 ∧ s.scene.begun = []) (hattempts : s.scene.attempts = 1) :
    (s.posed p sc).consume o = (s.consume o).posed p sc ∧ Poses err (s.consume o) p := by
  generalize hreceive : s.lifecycle.receive o s.now = r
  have hreceive' : (s.posed p sc).lifecycle.receive o (s.posed p sc).now = r := hreceive
  obtain ⟨l, command | command⟩ := r
  · rw [consume_fault hreceive, consume_fault hreceive']
    exact ⟨rfl, .inl hpollers, nofun, hunfetched, fun _ => hattempts⟩
  · rw [consume_ok hreceive, consume_ok hreceive']
    exact ⟨rfl, .inl hpollers, nofun, hunfetched, fun _ => hattempts⟩

theorem Poses.fireHealth (h : Poses err s p)
    (hpollers : Poller.Posing err s.scene.attempts s.poller p) (sc : Scene) :
    (s.posed p sc).fireHealth = s.fireHealth.posed p sc ∧ Poses err s.fireHealth p := by
  have hsame : (s.posed p sc).fireHealth = s.fireHealth.posed p sc := by
    unfold Stream.fireHealth posed
    dsimp only
    split <;> rfl
  obtain ⟨l, published, heq, -⟩ := s.fireHealth_eq
  rw [heq] at hsame ⊢
  exact ⟨hsame, .inl hpollers, h.polls, h.unfetched, h.counted⟩

/-- Two drivers that wait for a poll. -/
theorem Poses.await {poll : Poll} (hplan : plan.Refused err) (h : Poses err s p) (sc : Scene)
    (hpollers : Poller.Posing err s.scene.attempts s.poller p) (hpoll : poll.IsRequest) :
    InPose err (s.await plan poll) ((s.posed p sc).await (plan.refusing err) poll) := by
  have hpaired := hpollers.move hpoll plan.server s.now s.scene sc hplan.pos hplan.orders
  have hwanted : (s.posed p sc).closeWanted = s.closeWanted := rfl
  have hmove : Poller.move (plan.refusing err).server (plan.refusing err).workerCapacity
      (s.posed p sc).now ((s.posed p sc).poller, poll, (s.posed p sc).scene) =
    Poller.move (plan.server.refusing err) plan.workerCapacity s.now (p, poll, sc) := rfl
  unfold Stream.await
  rw [hwanted, hmove]
  generalize Poller.move plan.server plan.workerCapacity s.now (s.poller, poll, s.scene) = m
    at hpaired
  generalize Poller.move (plan.server.refusing err) plan.workerCapacity s.now (p, poll, sc) = m'
    at hpaired
  split
  · exact .some _ sc (h.proceed hpollers _)
  · cases hpaired with
    | blocked =>
      dsimp only
      rw [show (s.posed p sc).lifecycle.health.isDue (s.posed p sc).now =
        s.lifecycle.health.isDue s.now from rfl]
      split
      · obtain ⟨heq, hposes⟩ := h.fireHealth hpollers sc
        rw [heq]
        exact .some _ sc hposes
      · exact .none
    | @moved p₁ p₁' poll₁ hposing hpoll₁ =>
      refine .some (s.withPoll (p₁, poll₁, s.scene)) sc
        ⟨.inl hposing, ?_, h.unfetched, h.counted⟩
      rintro poll hpoll
      cases hpoll
      exact hpoll₁
    | @ready p₁ p₁' poll₁ o hposing hpoll₁ hn =>
      obtain ⟨heq, hposes⟩ := Poses.consume (s := s.withPoll (p₁, poll₁, s.scene)) o sc hposing
        h.unfetched hn
      dsimp only
      rw [show (s.posed p sc).withPoll (p₁', poll₁, sc) =
        (s.withPoll (p₁, poll₁, s.scene)).posed p₁' sc from rfl, heq]
      exact .some _ sc hposes

/-- The drivers of the two take the same steps. -/
theorem Poses.driver (hplan : plan.Refused err) (h : Poses err s p) (sc : Scene) :
    InPose err (s.moveDriver plan) ((s.posed p sc).moveDriver (plan.refusing err)) := by
  have hstage' : (s.posed p sc).stage = s.stage := rfl
  unfold moveDriver
  rw [hstage']
  rcases h.pollers.symm with ⟨⟨reason, hstage⟩, -, -⟩ | hpollers
  · rw [hstage]
    exact .none
  have hproceed (next : Lifecycle × Command) :
      InPose err (some (s.proceed next)) (some ((s.posed p sc).proceed next)) :=
    .some _ sc (h.proceed hpollers next)
  cases hstage : s.stage with
  | starting => exact hproceed _
  | finished => exact .none
  | crashed => exact .none
  | leaving reason =>
    obtain ⟨hstop, hstop'⟩ := hpollers.stop_eq
    exact .some { s with poller := s.poller.stop, stage := .finished reason } sc
      ⟨.inr ⟨⟨reason, rfl⟩, hstop, hstop'⟩, nofun, h.unfetched, h.counted⟩
  | waiting poll => exact h.await hplan sc hpollers (h.polls poll hstage)
  | executing command =>
    cases command with
    | fetch d =>
      refine .some { s with stage := .waiting (.fresh d) } sc
        ⟨.inl hpollers, ?_, h.unfetched, h.counted⟩
      rintro poll hpoll
      cases hpoll
      trivial
    | deliver chunk =>
      obtain ⟨sc', heq, hposes⟩ := h.deliver hplan.hooks hpollers sc chunk
      dsimp only [execute]
      rw [heq]
      exact .some _ sc' hposes
    | close reason =>
      exact .some { s with stage := .leaving reason } sc
        ⟨.inl hpollers, nofun, h.unfetched, h.counted⟩
    | wait => exact hproceed _

/-- The step of the one worker is a step of the other, or two. -/
theorem Poses.worker (hplan : plan.Refused err) (h : Poses err s p) (sc : Scene) :
    (s.moveWorker plan = none ∧ (s.posed p sc).moveWorker (plan.refusing err) = none) ∨
    ∃ s₁ p₁ sc₁, s.moveWorker plan = some s₁ ∧ Poses err s₁ p₁ ∧
      ((s.posed p sc).moveWorker (plan.refusing err) = some (s₁.posed p₁ sc₁) ∨
        ∃ s', (s.posed p sc).moveWorker (plan.refusing err) = some s' ∧
          s'.moveWorker (plan.refusing err) = some (s₁.posed p₁ sc₁)) := by
  rcases h.pollers.symm with ⟨-, hstopped, hstopped'⟩ | hpollers
  · refine .inl ⟨?_, ?_⟩
    · unfold moveWorker; rw [hstopped]; rfl
    · rw [hstopped']; rfl
  have hconnect : s.scene.attempts = 0 → (plan.server.connect s.scene).1 = .error err :=
    fun hzero => (plan.server.connect_congr hzero).trans hplan.refuses
  cases hpollers.moveWorker s.now sc hconnect with
  | rest hm hm' => exact .inl ⟨congrArg (Option.map _) hm, congrArg (Option.map _) hm'⟩
  | @connect p₁ p₁' hzero hm hm' hposing =>
    have hattempts : (plan.server.connect s.scene).2.attempts = 1 := by
      rw [plan.server.attempts_of_error s.scene (hconnect hzero), hzero]
    refine .inr ⟨_, p₁', sc, congrArg (Option.map _) hm, ⟨.inl ?_, h.polls, ?_, fun _ => hattempts⟩,
      .inl (congrArg (Option.map _) hm')⟩
    · rw [← hattempts] at hposing
      exact hposing
    · rw [plan.server.connect_calls, plan.server.connect_begun]
      exact h.unfetched
  | @one p₁ p₁' hm hm' hposing =>
    exact .inr ⟨_, p₁', sc, congrArg (Option.map _) hm,
      ⟨.inl hposing, h.polls, h.unfetched, h.counted⟩, .inl (congrArg (Option.map _) hm')⟩
  | @two p₁ p₁' p₂ sc₁ sc₂ hm hm' hm'' hposing =>
    exact .inr ⟨_, p₁', sc₂, congrArg (Option.map _) hm,
      ⟨.inl hposing, h.polls, h.unfetched, h.counted⟩,
      .inr ⟨(s.posed p sc).posed p₂ sc₁, congrArg (Option.map _) hm',
        congrArg (Option.map _) hm''⟩⟩

theorem Poses.canMove_eq (hplan : plan.Refused err) (h : Poses err s p) (sc : Scene) (t : Task) :
    (s.posed p sc).canMove (plan.refusing err) t = s.canMove plan t := by
  unfold canMove move
  cases t with
  | driver =>
    have hdriver := h.driver hplan sc
    dsimp only
    generalize s.moveDriver plan = m at hdriver
    generalize (s.posed p sc).moveDriver (plan.refusing err) = m' at hdriver
    cases hdriver with
    | none => rfl
    | some => rfl
  | worker =>
    dsimp only
    rcases h.worker hplan sc with ⟨hm, hm'⟩ | ⟨s₁, p₁, sc₁, hm, -, hm' | ⟨s', hm', -⟩⟩
    · rw [hm, hm']
    · rw [hm, hm']; rfl
    · rw [hm, hm']; rfl

/-- The two wait for the same time. -/
theorem Poses.wake?_eq (h : Poses err s p) (sc : Scene) : (s.posed p sc).wake? = s.wake? := by
  have hworker : p.workerWake? = s.poller.workerWake? := by
    rcases h.pollers with hpollers | ⟨-, hstopped, hstopped'⟩
    · exact hpollers.workerWake?_eq
    · rw [hstopped, hstopped']
  unfold wake?
  rw [show (s.posed p sc).driverWake? = s.driverWake? from rfl,
    show (s.posed p sc).poller = p from rfl, hworker]

end Stream

namespace Schedule

variable {σ : Schedule} {n : Nat}

/-- The schedule with a poller and a scene of another. -/
def posed (σ : Schedule) (p : Poller) (sc : Scene) : Schedule := ⟨σ.stream.posed p sc, σ.queue⟩

theorem enqueue_posed (hplan : plan.Refused err) (h : σ.stream.Poses err p) (sc : Scene)
    (t : Task) :
    enqueue (plan.refusing err) (σ.posed p sc) t = (enqueue plan σ t).posed p sc := by
  have hcan := h.canMove_eq hplan sc t
  unfold enqueue posed
  dsimp only
  rw [hcan]
  split <;> rfl

theorem ofStream_posed (hplan : plan.Refused err) (h : s.Poses err p) (sc : Scene) :
    ofStream (plan.refusing err) (s.posed p sc) = (ofStream plan s).posed p sc := by
  rw [ofStream_eq, ofStream_eq, h.canMove_eq hplan, h.canMove_eq hplan]
  rfl

theorem next_posed_turn {t : Task} {rest : List Task} (hplan : plan.Refused err)
    (h : σ.stream.Poses err p) (sc : Scene) (hqueue : σ.queue = t :: rest)
    (hm : σ.stream.move plan t = none)
    (hm' : (σ.stream.posed p sc).move (plan.refusing err) t = none) :
    (σ.next plan).stream.Poses err p ∧
      (σ.posed p sc).next (plan.refusing err) = (σ.next plan).posed p sc := by
  have hturn : ({ σ.stream with turns := σ.stream.turns + 1 } : Stream).Poses err p :=
    ⟨h.pollers, h.polls, h.unfetched, h.counted⟩
  rw [next_of_turn hqueue hm, next_of_turn (c := σ.posed p sc) hqueue hm', enqueue_stream]
  exact ⟨hturn, enqueue_posed (σ := ⟨_, rest⟩) hplan hturn sc t.other⟩

/-- What comes next for the one comes next for the other, or after that. -/
theorem next_posed (hplan : plan.Refused err) (h : σ.stream.Poses err p) (sc : Scene) :
    ∃ j p' sc', 0 < j ∧ (σ.next plan).stream.Poses err p' ∧
      after (plan.refusing err) j (σ.posed p sc) = (σ.next plan).posed p' sc' := by
  cases hqueue : σ.queue with
  | nil =>
    have hstep : σ.step plan = none := step_eq_none_iff.mpr hqueue
    have hstep' : (σ.posed p sc).step (plan.refusing err) = none := step_eq_none_iff.mpr hqueue
    have hwake' : (σ.posed p sc).stream.wake? = σ.stream.wake? := h.wake?_eq sc
    cases hwake : σ.stream.wake? with
    | none =>
      rw [next_of_rest hstep hwake]
      exact ⟨1, p, sc, Nat.one_pos, h, next_of_rest hstep' (hwake'.trans hwake)⟩
    | some t =>
      cases hover : σ.stream.isOver with
      | true =>
        have hdone : IsDone plan σ := ⟨hstep, hover⟩
        have hdone' : IsDone (plan.refusing err) (σ.posed p sc) := ⟨hstep', hover⟩
        rw [hdone.next_eq]
        exact ⟨1, p, sc, Nat.one_pos, h, hdone'.after_eq 1⟩
      | false =>
        have hlater : (σ.stream.atTime t).Poses err p :=
          ⟨h.pollers, h.polls, h.unfetched, h.counted⟩
        rw [next_of_wake hstep hover hwake]
        refine ⟨1, p, sc, Nat.one_pos, by rw [ofStream_stream]; exact hlater, ?_⟩
        exact (next_of_wake hstep' hover (hwake'.trans hwake)).trans
          (ofStream_posed hplan hlater sc)
  | cons t rest =>
    cases t with
    | driver =>
      have hdriver := h.driver hplan sc
      generalize hm : σ.stream.moveDriver plan = m at hdriver
      generalize hm' : (σ.stream.posed p sc).moveDriver (plan.refusing err) = m' at hdriver
      cases hdriver with
      | none =>
        obtain ⟨hposes, hnext⟩ := next_posed_turn hplan h sc hqueue hm hm'
        exact ⟨1, p, sc, Nat.one_pos, hposes, hnext⟩
      | @some _ p' sc' hposes =>
        rw [next_of_move hqueue hm]
        exact ⟨1, p', sc', Nat.one_pos, hposes, next_of_move (c := σ.posed p sc) hqueue hm'⟩
    | worker =>
      rcases h.worker hplan sc with ⟨hm, hm'⟩ | ⟨s₁, p₁, sc₁, hm, hposes, hm' | ⟨s', hm', hm''⟩⟩
      · obtain ⟨hposes, hnext⟩ := next_posed_turn hplan h sc hqueue hm hm'
        exact ⟨1, p, sc, Nat.one_pos, hposes, hnext⟩
      · rw [next_of_move hqueue hm]
        exact ⟨1, p₁, sc₁, Nat.one_pos, hposes, next_of_move (c := σ.posed p sc) hqueue hm'⟩
      · rw [next_of_move hqueue hm]
        -- The worker that was let in first begins the fetch, and only then fails as the other did.
        refine ⟨2, p₁, sc₁, Nat.two_pos, hposes, ?_⟩
        show ((σ.posed p sc).next (plan.refusing err)).next (plan.refusing err) = _
        rw [next_of_move (c := σ.posed p sc) hqueue hm']
        exact next_of_move (c := ⟨s', σ.queue⟩) hqueue hm''

/-- Whatever the one comes to, the other comes to after as many steps or more. -/
theorem after_posed (hplan : plan.Refused err) (h : σ.stream.Poses err p) (sc : Scene) (n : Nat) :
    ∃ m p' sc', n ≤ m ∧ (after plan n σ).stream.Poses err p' ∧
      after (plan.refusing err) m (σ.posed p sc) = (after plan n σ).posed p' sc' := by
  induction n generalizing σ p sc with
  | zero => exact ⟨0, p, sc, Nat.le_refl 0, h, rfl⟩
  | succ n ih =>
    obtain ⟨j, p₁, sc₁, hj, hposes, hnext⟩ := next_posed hplan h sc
    obtain ⟨m, p', sc', hm, hposes', hafter⟩ := ih hposes sc₁
    refine ⟨j + m, p', sc', by omega, hposes', ?_⟩
    rw [after_add, hnext]
    exact hafter

/-- When the other is done, so is the one. -/
theorem done_posed (hplan : plan.Refused err) (h : σ.stream.Poses err p) {n : Nat}
    (hdone : IsDone (plan.refusing err) (after (plan.refusing err) n (σ.posed p sc))) :
    ∃ p' sc', IsDone plan (after plan n σ) ∧ (after plan n σ).stream.Poses err p' ∧
      after (plan.refusing err) n (σ.posed p sc) = (after plan n σ).posed p' sc' := by
  obtain ⟨m, p', sc', hm, hposes, hafter⟩ := after_posed hplan h sc n
  -- It takes `m` steps to where the one is after `n`; a schedule that is done stays as it is.
  have hstay : after (plan.refusing err) m (σ.posed p sc) =
      after (plan.refusing err) n (σ.posed p sc) := by
    rw [← Nat.add_sub_cancel' hm, after_add]
    exact hdone.after_eq _
  rw [hstay] at hafter
  rw [hafter] at hdone
  have hqueue : ((after plan n σ).posed p' sc').queue = [] := step_eq_none_iff.mp hdone.1
  exact ⟨p', sc', ⟨step_eq_none_iff.mpr hqueue, hdone.2⟩, hposes, hafter⟩

end Schedule

end RemoteConsole
