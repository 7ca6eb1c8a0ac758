import RemoteConsole.Proofs.Poller.Polling
import RemoteConsole.Proofs.Schedule.Next
import RemoteConsole.Proofs.Stream.Farewell
import RemoteConsole.Proofs.Stream.Patience

/-!
# A close takes effect at once

* `Stream.Halts plan s s'`: nothing was taken, shown or fetched from `s` to `s'`, but for what `s`
  had at hand. `halts_reach`: so it is with all that follows a request to close.
* `Stage.distance`: how many steps the driver is from its end once a close is wanted.
* `Stream.Closing plan T reason s`: the stream is on its way to close for a reason, at the time `T`.
  Every step of the driver shortens the distance (`Closing.driver`), and the worker only delays it
  (`Closing.worker_turn`), so that any queue in which the driver waits leads to the end
  (`Closing.finish`).
* `Stream.closed_at_once`: a close that is wanted takes effect at the time at which it is wanted.
-/

namespace RemoteConsole

/-- Every step of the worker lowers the rank of its poller. -/
theorem Poller.rank_moveWorker {server : Server} {now : Nat} {p p' : Poller} {s s' : Scene}
    (hm : p.moveWorker server now s = some (p', s')) : p'.rank < p.rank := by
  cases p with
  | running w =>
    obtain ⟨w', -, rfl, -, hrank⟩ := moveWorker_running hm
    exact hrank
  | direct | pending | fallback | stopped => cases hm

/-- How many steps a driver takes from a stage to its end when a close is wanted. -/
def Stage.distance : Stage → Nat
  | .starting => 6
  | .executing (.deliver (some _)) => 6
  | .executing (.fetch _) => 5
  | .waiting _ => 4
  | .executing (.deliver none) => 3
  | .executing (.close _) => 2
  | .leaving _ => 1
  | .executing .wait => 0
  | .finished _ => 0
  | .crashed => 0

namespace Stream

variable {plan : Plan} {s s' s'' : Stream}

/-! ## What follows a request -/

/-- From `s` to `s'` nothing was taken, shown or fetched, but for what `s` had at hand, and a reason
to close was given at most by the request. -/
structure Halts (plan : Plan) (s s' : Stream) : Prop where
  wanted : s'.closeWanted = true
  consumed : s'.consumed = s.consumed
  shown : s'.undelivered = s.undelivered ∧ s'.scene.outlet.content = s.scene.outlet.content ∨
    s'.undelivered = [] ∧ s'.scene.outlet.shown = s.scene.outlet.shown ++
      plan.setting.passed (plan.setting.converter.itemsAfter s.scene.outlet.converted
        (s.undelivered.flatMap Chunk.contentsIn))
  fetches : (∀ w, s.poller ≠ .running w) →
    (∀ w, s'.poller ≠ .running w) ∧ s'.scene.begun = s.scene.begun
  reason : s'.lifecycle.closeReason = s.lifecycle.closeReason ∨
    s.lifecycle.closeReason = none ∧ s'.lifecycle.closeReason = some .requested

theorem Halts.refl (h : s.closeWanted = true) : Halts plan s s :=
  ⟨h, rfl, .inl ⟨rfl, rfl⟩, fun hp => ⟨hp, rfl⟩, .inl rfl⟩

theorem Halts.trans (h : Halts plan s s') (h' : Halts plan s' s'') : Halts plan s s'' where
  wanted := h'.wanted
  consumed := h'.consumed.trans h.consumed
  shown := by
    rcases h.shown with ⟨hhand, hcontent⟩ | ⟨hhand, hshown⟩
    · obtain ⟨hconverted, hshown⟩ := Prod.mk.inj hcontent
      rw [← hhand, ← hcontent, ← hconverted, ← hshown]
      exact h'.shown
    · refine .inr ?_
      rcases h'.shown with ⟨hhand', hcontent'⟩ | ⟨hhand', hshown'⟩
      · exact ⟨hhand'.trans hhand, (Prod.mk.inj hcontent').2.trans hshown⟩
      · refine ⟨hhand', hshown'.trans ?_⟩
        rw [hhand, hshown, List.flatMap_nil, Converter.itemsAfter, Setting.passed_nil,
          List.append_nil]
  fetches hp := by
    obtain ⟨hp', hbegun⟩ := h.fetches hp
    obtain ⟨hp'', hbegun'⟩ := h'.fetches hp'
    exact ⟨hp'', hbegun'.trans hbegun⟩
  reason := by
    rcases h'.reason with he' | ⟨hnone', hrequested⟩
    · rw [he']
      exact h.reason
    · rcases h.reason with he | ⟨-, hsome⟩
      · exact .inr ⟨he ▸ hnone', hrequested⟩
      · cases hnone'.symm.trans hsome

/-- The reason that the stream closes for stays. -/
theorem Halts.getD_reason (h : Halts plan s s') :
    s'.lifecycle.closeReason.getD .requested = s.lifecycle.closeReason.getD .requested := by
  rcases h.reason with he | ⟨hnone, hrequested⟩
  · rw [he]
  · rw [hnone, hrequested]
    rfl

/-- A step of the driver that touches neither the poller nor the scene. -/
theorem Halts.still (hwanted : s'.closeWanted = true) (hconsumed : s'.consumed = s.consumed)
    (hscene : s'.scene = s.scene) (hundelivered : s'.undelivered = s.undelivered)
    (hpoller : s'.poller = s.poller) (hreason : s'.lifecycle.closeReason = s.lifecycle.closeReason ∨
      s.lifecycle.closeReason = none ∧ s'.lifecycle.closeReason = some .requested) :
    Halts plan s s' where
  wanted := hwanted
  consumed := hconsumed
  shown := .inl ⟨hundelivered, by rw [hscene]⟩
  fetches hp := ⟨hpoller ▸ hp, by rw [hscene]⟩
  reason := hreason

theorem undelivered_of_stage (h : ∀ c, s.stage ≠ .executing (.deliver (some c))) :
    s.undelivered = [] := by
  unfold undelivered
  split
  · next c hs => exact absurd hs (h c)
  · rfl

theorem Halts.deliver (hwanted : s.closeWanted = true) (ho : s.IsOrderly) {chunk : Option Chunk}
    (hs : s.stage = .executing (.deliver chunk)) : Halts plan s (s.deliver plan chunk) := by
  have hd := delivers_deliver plan ho hs
  have hframe : (s.deliver plan chunk).closeWanted = s.closeWanted ∧
      (s.deliver plan chunk).scene.begun = s.scene.begun := by
    rcases deliver_cases plan s chunk with ⟨d, flow, l, command, -, -, heq⟩ | ⟨d, heq⟩ <;>
      rw [heq] <;> exact ⟨rfl, rfl⟩
  refine ⟨hframe.1.trans hwanted, hd.consumed, .inr ⟨hd.undelivered, ?_⟩,
    fun hp => ⟨hd.poller ▸ hp, hframe.2⟩, .inl hd.reason⟩
  rw [undelivered_contents hs]
  exact congrArg Prod.snd hd.content

theorem Halts.driver (hwanted : s.closeWanted = true) (ho : s.IsOrderly)
    (hm : DriverMove plan s s') : Halts plan s s' := by
  have hunhurried : ∀ stage, s.stage = stage → (∀ c, stage ≠ .executing (.deliver (some c))) →
      s.undelivered = [] := fun stage hs hne => undelivered_of_stage (hs ▸ hne)
  cases hm with
  | start hs =>
    rw [s.lifecycle.start_eq (ho.starting hs).1]
    exact .still hwanted rfl rfl (hunhurried _ hs nofun).symm rfl
      (.inl (s.lifecycle.enterPolling_closeReason s.now))
  | fetch hs | close hs => exact .still hwanted rfl rfl (hunhurried _ hs nofun).symm rfl (.inl rfl)
  | deliver hs => exact .deliver hwanted ho hs
  | wait hs => exact absurd hs ho.ne_wait
  | requestClose hs =>
    obtain ⟨hphase, hnone⟩ := ho.waiting hs
    rw [s.lifecycle.requestClose_eq (by rw [hphase]; decide), hnone]
    exact .still hwanted rfl rfl (undelivered_waiting hs).symm rfl (.inr ⟨hnone, rfl⟩)
  | poll _ hc | consume _ hc | crash _ hc | health _ hc => cases hwanted.symm.trans hc
  | leave hs =>
    refine ⟨hwanted, rfl, .inl ⟨(hunhurried _ hs nofun).symm, rfl⟩, fun hp => ⟨fun w hw => ?_, rfl⟩,
      .inl rfl⟩
    replace hw : s.poller.stop = .running w := hw
    cases hpoller : s.poller <;> rw [hpoller] at hw <;> cases hw

theorem Halts.step (hwanted : s.closeWanted = true) (ho : s.IsOrderly) (hs : Step plan s s') :
    Halts plan s s' := by
  cases hs with
  | driver hm => exact .driver hwanted ho (.of_move hm)
  | worker hm =>
    obtain ⟨poller, scene, hp, rfl⟩ := moveWorker_eq hm
    obtain ⟨-, -, -, hcontent⟩ := Poller.carried_moveWorker hp
    refine ⟨hwanted, rfl, .inl ⟨rfl, hcontent⟩, fun hpoller => ?_, .inl rfl⟩
    -- only a running worker can take a step
    cases hrunning : s.poller with
    | running w => exact absurd hrunning (hpoller w)
    | direct | pending | fallback | stopped => rw [hrunning] at hp; cases hp
  | turn | time => exact ⟨hwanted, rfl, .inl ⟨rfl, rfl⟩, fun hp => ⟨hp, rfl⟩, .inl rfl⟩
  | close => exact ⟨rfl, rfl, .inl ⟨rfl, rfl⟩, fun hp => ⟨hp, rfl⟩, .inl rfl⟩

/-- Once a close is wanted, nothing more is taken, shown or fetched. -/
theorem halts_reach (hwanted : s.closeWanted = true) (h : Kept plan s) (hr : Reach plan s s') :
    Halts plan s s' := by
  induction hr with
  | refl => exact .refl hwanted
  | tail hto hstep ih => exact ih.trans (.step ih.wanted (h.reach hto).orderly hstep)

/-! ## The way to the end -/

/-- The stream is on its way to close for a reason, and it is `T`. -/
structure Closing (plan : Plan) (T : Nat) (reason : CloseReason) (s : Stream) : Prop where
  faithful : Faithful plan s
  wanted : s.closeWanted = true
  now : s.now = T
  running : s.stage ≠ .crashed
  kept : s.lifecycle.closeReason.getD .requested = reason
  told : s.lifecycle.phase = .closed → ∃ p ∈ s.published, p.event = .closed reason ∧ p.time = T

variable {T : Nat} {reason : CloseReason}

/-- A driver on its way to close takes a step, at once, and it is the nearer to its end. -/
structure Nears (plan : Plan) (T : Nat) (reason : CloseReason) (s s' : Stream) : Prop where
  move : s.moveDriver plan = some s'
  closing : Closing plan T reason s'
  distance : s'.stage.distance < s.stage.distance

theorem Closing.nears (hhooks : plan.setting.HooksReturn) (h : Closing plan T reason s)
    (hm : DriverMove plan s s') (hnow : s'.now = s.now) (hrunning : s'.stage ≠ .crashed)
    (htold : s'.lifecycle.phase = .closed →
      ∃ p ∈ s'.published, p.event = .closed reason ∧ p.time = T)
    (hdistance : s'.stage.distance < s.stage.distance) : Nears plan T reason s s' := by
  have hhalts : Halts plan s s' := .driver h.wanted h.faithful.kept.orderly hm
  refine ⟨hm.move_eq, ⟨h.faithful.step hhooks (.driver hm.move_eq), hhalts.wanted,
    hnow.trans h.now, hrunning, hhalts.getD_reason.trans h.kept, htold⟩, hdistance⟩

/-- The delivery of what is at hand has the stream fetch again, or closes it and tells so. -/
theorem Closing.deliver (hhooks : plan.setting.HooksReturn) (h : Closing plan T reason s)
    {chunk : Option Chunk} (hs : s.stage = .executing (.deliver chunk)) :
    Nears plan T reason s (s.deliver plan chunk) := by
  have hphase := (h.faithful.kept.orderly.deliver hs).1
  have hopen : s.Unheard := by
    rcases h.faithful.told with hu | ⟨r, hheard⟩
    · exact hu
    · rw [hheard.lifecycle.phase] at hphase
      simp at hphase
  rcases h.faithful.delivery hhooks hopen hs with ⟨hu, hchunk, hstage⟩ | ⟨r, d, hparting, heq, -⟩
  · refine h.nears hhooks (.deliver hs) ?_ (by rw [hstage]; exact nofun)
      (fun hclosed => absurd hclosed hu.lifecycle.phase) ?_
    · rcases deliver_cases plan s chunk with ⟨d, flow, l, command, -, -, heq⟩ | ⟨d, heq⟩ <;>
        rw [heq] <;> rfl
    · obtain ⟨c, rfl⟩ := Option.ne_none_iff_exists'.mp hchunk
      rw [hs, hstage]
      exact Nat.lt_succ_self 5
  · have hkept : (s.afterDelivery d).lifecycle.closeReason = some r := hparting.kept
    have hreason : r = reason := by
      rw [← h.kept, hparting.kept]
      rfl
    subst hreason
    have hclose : (s.afterDelivery d).lifecycle.delivered .stop s.now =
        (s.afterDelivery d).lifecycle.close := Lifecycle.delivered_stop _ hphase
    rw [Lifecycle.close_eq _ hparting.lifecycle.phase, hkept] at hclose
    rw [hclose] at heq
    refine h.nears hhooks (.deliver hs) (by rw [heq]; rfl) (by rw [heq]; exact nofun)
      (fun _ => ?_) ?_
    · rw [heq]
      refine ⟨⟨.closed r, s.now, s.turns / turnsPerRound⟩, ?_, rfl, h.now⟩
      exact List.mem_append_right _ (List.mem_map.mpr ⟨.closed r, by simp, rfl⟩)
    · rw [heq, hs]
      cases chunk with
      | none => exact Nat.lt_succ_self 2
      | some c => exact Nat.lt_of_lt_of_le (Nat.lt_succ_self 2) (by decide : 3 ≤ 6)

theorem Closing.driver (hhooks : plan.setting.HooksReturn) (h : Closing plan T reason s)
    (hon : s.closed? = none) : ∃ s', Nears plan T reason s s' := by
  have ho := h.faithful.kept.orderly
  cases hs : s.stage with
  | starting =>
    have hmove : DriverMove plan s (s.proceed (s.lifecycle.start s.now)) := .start hs
    rw [s.lifecycle.start_eq (ho.starting hs).1] at hmove
    refine ⟨_, h.nears hhooks hmove rfl nofun (fun hclosed => ?_) ?_⟩
    · exact absurd ((s.lifecycle.enterPolling_phase s.now).symm.trans hclosed) (by decide)
    · rw [hs]
      exact Nat.lt_succ_self 5
  | executing command =>
    cases command with
    | fetch delay =>
      exact ⟨_, h.nears hhooks (.fetch hs) rfl nofun h.told (by rw [hs]; exact Nat.lt_succ_self 4)⟩
    | deliver chunk => exact ⟨_, h.deliver hhooks hs⟩
    | close r =>
      exact ⟨_, h.nears hhooks (.close hs) rfl nofun h.told (by rw [hs]; exact Nat.lt_succ_self 1)⟩
    | wait => exact absurd hs ho.ne_wait
  | waiting poll =>
    obtain ⟨hphase, hnone⟩ := ho.waiting hs
    have hopen : s.lifecycle.phase ≠ .closed := by rw [hphase]; decide
    have hmove : DriverMove plan s (s.proceed s.lifecycle.requestClose) :=
      .requestClose hs h.wanted
    rw [s.lifecycle.requestClose_eq hopen] at hmove
    refine ⟨_, h.nears hhooks hmove rfl nofun (fun hclosed => absurd hclosed hopen) ?_⟩
    rw [hs]
    exact Nat.lt_succ_self 3
  | leaving r =>
    exact ⟨_, h.nears hhooks (.leave hs) rfl nofun h.told (by rw [hs]; exact Nat.lt_succ_self 0)⟩
  | finished r =>
    unfold closed? at hon
    rw [hs] at hon
    cases hon
  | crashed => exact absurd hs h.running

/-- The worker takes no one off the way. -/
theorem Closing.worker (hhooks : plan.setting.HooksReturn) (h : Closing plan T reason s)
    (hm : s.moveWorker plan = some s') : Closing plan T reason s' := by
  have hfaithful := h.faithful.step hhooks (.worker hm)
  obtain ⟨poller, scene, -, rfl⟩ := moveWorker_eq hm
  exact ⟨hfaithful, h.wanted, h.now, h.running, h.kept, h.told⟩

theorem Closing.turn (hhooks : plan.setting.HooksReturn) (h : Closing plan T reason s) :
    Closing plan T reason { s with turns := s.turns + 1 } :=
  ⟨h.faithful.step hhooks .turn, h.wanted, h.now, h.running, h.kept, h.told⟩

/-- With the driver first in the queue, the stream comes to its end in this turn. -/
theorem Closing.driver_turn (hhooks : plan.setting.HooksReturn) (h : Closing plan T reason s)
    (rest : List Task) :
    ∃ n, Closing plan T reason (Schedule.after plan n ⟨s, .driver :: rest⟩).stream ∧
      (Schedule.after plan n ⟨s, .driver :: rest⟩).stream.closed? ≠ none := by
  induction hd : s.stage.distance using Nat.strongRecOn generalizing s with
  | ind distance ih =>
    by_cases hon : s.closed? = none
    · obtain ⟨s', hnears⟩ := h.driver hhooks hon
      have hstep : Schedule.step plan ⟨s, .driver :: rest⟩ = some ⟨s', .driver :: rest⟩ := by
        simp only [Schedule.step, move, hnears.move]
      obtain ⟨n, hn⟩ := ih _ (hd ▸ hnears.distance) hnears.closing rfl
      refine ⟨n + 1, ?_⟩
      unfold Schedule.after
      rw [Schedule.next_of_step hstep]
      exact hn
    · exact ⟨0, h, hon⟩

/-- With the worker first in the queue, its turn ends, and those behind it are still there. -/
theorem Closing.worker_turn (hhooks : plan.setting.HooksReturn) (h : Closing plan T reason s)
    (rest : List Task) :
    ∃ n s' late, Schedule.after plan n ⟨s, .worker :: rest⟩ = ⟨s', rest ++ late⟩ ∧
      Closing plan T reason s' := by
  induction hd : s.poller.rank using Nat.strongRecOn generalizing s with
  | ind rank ih =>
    cases hm : s.moveWorker plan with
    | some s' =>
      have hstep : Schedule.step plan ⟨s, .worker :: rest⟩ = some ⟨s', .worker :: rest⟩ := by
        simp only [Schedule.step, move, hm]
      have hrank : s'.poller.rank < rank := by
        obtain ⟨poller, scene, hp, rfl⟩ := moveWorker_eq hm
        exact hd ▸ Poller.rank_moveWorker hp
      obtain ⟨n, hn⟩ := ih _ hrank (h.worker hhooks hm) rfl
      refine ⟨n + 1, ?_⟩
      unfold Schedule.after
      rw [Schedule.next_of_step hstep]
      exact hn
    | none =>
      have hstep : Schedule.step plan ⟨s, .worker :: rest⟩ =
          some (Schedule.enqueue plan ⟨{ s with turns := s.turns + 1 }, rest⟩ .driver) := by
        simp only [Schedule.step, move, hm, Task.other]
      refine ⟨1, { s with turns := s.turns + 1 }, ?_⟩
      have hnext := Schedule.next_of_step hstep
      unfold Schedule.enqueue at hnext
      split at hnext
      · exact ⟨[.driver], hnext, h.turn hhooks⟩
      · exact ⟨[], by rw [List.append_nil]; exact hnext, h.turn hhooks⟩

/-- Any queue in which the driver waits for its turn leads to the end. -/
theorem Closing.finish (hhooks : plan.setting.HooksReturn) {queue : List Task}
    (h : Closing plan T reason s) (hmem : .driver ∈ queue) (behind : List Task) :
    ∃ n, Closing plan T reason (Schedule.after plan n ⟨s, queue ++ behind⟩).stream ∧
      (Schedule.after plan n ⟨s, queue ++ behind⟩).stream.closed? ≠ none := by
  induction queue generalizing s behind with
  | nil => cases hmem
  | cons t queue ih =>
    cases t with
    | driver => exact h.driver_turn hhooks (queue ++ behind)
    | worker =>
      obtain ⟨m, s', late, hafter, hs'⟩ := h.worker_turn hhooks (queue ++ behind)
      have hwaits : .driver ∈ queue := by simpa using hmem
      obtain ⟨n, hn⟩ := ih hs' hwaits (behind ++ late)
      refine ⟨m + n, ?_⟩
      rw [Schedule.after_add, List.cons_append, hafter, List.append_assoc]
      exact hn

/-- A driver whose stream is to be closed is woken, if it has not come to its end already. -/
theorem Closing.wakes (hhooks : plan.setting.HooksReturn) (h : Closing plan T reason s)
    (queue : List Task) :
    ∃ n, Closing plan T reason
        (Schedule.after plan n (Schedule.enqueue plan ⟨s, queue⟩ .driver)).stream ∧
      (Schedule.after plan n (Schedule.enqueue plan ⟨s, queue⟩ .driver)).stream.closed? ≠ none := by
  by_cases hon : s.closed? = none
  · obtain ⟨s', hnears⟩ := h.driver hhooks hon
    have hcan : s.canMove plan .driver = true := by
      unfold canMove move
      dsimp only
      rw [hnears.move]
      rfl
    have hqueue : ∃ queue', Schedule.enqueue plan ⟨s, queue⟩ .driver = ⟨s, queue'⟩ ∧
        .driver ∈ queue' := by
      unfold Schedule.enqueue
      split
      · exact ⟨queue ++ [.driver], rfl, by simp⟩
      · next hno => exact ⟨queue, rfl, by simpa [hcan] using hno⟩
    obtain ⟨queue', heq, hmem⟩ := hqueue
    have hfinish := h.finish hhooks hmem []
    rw [List.append_nil] at hfinish
    rw [heq]
    exact hfinish
  · refine ⟨0, ?_, ?_⟩
    · show Closing plan T reason (Schedule.enqueue plan ⟨s, queue⟩ .driver).stream
      rw [Schedule.enqueue_stream]
      exact h
    · show (Schedule.enqueue plan ⟨s, queue⟩ .driver).stream.closed? ≠ none
      rw [Schedule.enqueue_stream]
      exact hon

/-! ## Main statement -/

/-- At whatever moment of whatever run the holder of a stream has it closed, or drops the last that
is held of it. From then on no outcome is taken; nothing is shown but what the driver was about to
deliver; a stream that fetches by itself begins no fetch; and a stream that had no reason to close
tells the hooks of the close and of nothing else. A driver that waits, before its first fetch or for
a poll, has nothing to deliver and no reason to close. And unless the stream was closed or its
driver had broken off, the driver is woken and closes it at that very time: for the reason that
there was, or else as requested. -/
theorem closed_at_once {c : Client} {isThreaded : Bool} {scene : Scene} {s₀ : Stream}
    {r : Rehearsal.Run} {a : Rehearsal.Action} (hhooks : c.setting.HooksReturn)
    (hstart : c.start isThreaded .empty = (.ok s₀, scene)) (hr : Reach c.plan s₀ r.stream)
    (hwanted : (r.act a).stream.closeWanted = true) :
    let s := (r.act a).stream
    (∀ s', Reach c.plan s s' →
      s'.consumed = s.consumed ∧
      (s'.scene.outlet.shown = s.scene.outlet.shown ∨
        s'.scene.outlet.shown = s.scene.outlet.shown ++
          c.setting.passed (c.setting.converter.itemsAfter s.scene.outlet.converted
            (s.undelivered.flatMap Chunk.contentsIn))) ∧
      (c.options.offload.offloads isThreaded = false → s'.scene.begun = s.scene.begun) ∧
      (s.lifecycle.closeReason = none →
        s'.hookCalls = [] ∨ s'.hookCalls = c.setting.heard [.closed])) ∧
    ((s.stage = .starting ∨ ∃ poll, s.stage = .waiting poll) →
      s.undelivered = [] ∧ s.lifecycle.closeReason = none) ∧
    (s.lifecycle.phase ≠ .closed → s.stage ≠ .crashed → ∀ queue, ∃ n,
      let s' := (Schedule.after c.plan n (Schedule.enqueue c.plan ⟨s, queue⟩ .driver)).stream
      let reason := s.lifecycle.closeReason.getD .requested
      Reach c.plan s s' ∧ s'.now = s.now ∧ s'.closed? = some reason ∧
        s'.lifecycle.phase = .closed ∧
        s'.hookCalls = c.setting.heard (reason.farewell c.setting.session) ∧
        ∃ p ∈ s'.published, p.event = .closed reason ∧ p.time = s.now) := by
  intro s
  have hr : Reach c.plan s₀ s := hr.trans (Rehearsal.reach_act r a)
  have hfaithful : Faithful c.plan s := (faithful_start hstart).reach hhooks hr
  have hkept := hfaithful.kept
  refine ⟨fun s' hto => ?_, ?_, fun hopen hrunning queue => ?_⟩
  · have hhalts : Halts c.plan s s' := halts_reach hwanted hkept hto
    refine ⟨hhalts.consumed, hhalts.shown.imp (fun h => (Prod.mk.inj h.2).2) (·.2),
      fun hmode => ?_, fun hnone => ?_⟩
    · have hdirect := (calls_reach hr).2 (Client.start_direct hstart hmode)
      exact (hhalts.fetches (by rw [hdirect]; exact nofun)).2
    · rcases (hfaithful.reach hhooks hto).told with hu | ⟨reason, hheard⟩
      · exact .inl hu.hooks
      · have hrequested : reason = .requested := by
          rcases hhalts.reason with he | ⟨-, he⟩
          · cases hheard.lifecycle.kept.symm.trans (he.trans hnone)
          · exact Option.some.inj (hheard.lifecycle.kept.symm.trans he)
        subst hrequested
        exact .inr hheard.hooks
  · have ho := hkept.orderly
    rintro (hs | ⟨poll, hs⟩)
    · exact ⟨undelivered_of_stage (by rw [hs]; exact nofun), (ho.starting hs).2⟩
    · exact ⟨undelivered_waiting hs, (ho.waiting hs).2⟩
  · have hclosing : Closing c.plan s.now (s.lifecycle.closeReason.getD .requested) s :=
      ⟨hfaithful, hwanted, rfl, hrunning, rfl, fun hclosed => absurd hclosed hopen⟩
    obtain ⟨n, hend, hclosed⟩ := hclosing.wakes hhooks queue
    obtain ⟨final, hreport⟩ := Option.ne_none_iff_exists'.mp hclosed
    obtain ⟨hphase, hreason⟩ := hend.faithful.kept.orderly.closed_phase hreport
    have hsame : final = s.lifecycle.closeReason.getD .requested := by
      rw [← hend.kept, hreason]
      rfl
    have hreach := Schedule.reach_after c.plan n (Schedule.enqueue c.plan ⟨s, queue⟩ .driver)
    rw [Schedule.enqueue_stream] at hreach
    have hcalls :
        (Schedule.after c.plan n (Schedule.enqueue c.plan ⟨s, queue⟩ .driver)).stream.hookCalls =
          c.setting.heard (final.farewell c.setting.session) := by
      rcases hend.faithful.told with hu | ⟨reason, hheard⟩
      · exact absurd hphase hu.lifecycle.phase
      · have hkept : reason = final := Option.some.inj (hheard.lifecycle.kept.symm.trans hreason)
        exact hkept ▸ hheard.hooks
    rw [hsame] at hreport hcalls
    exact ⟨n, hreach, hend.now, hreport, hphase, hcalls, hend.told hphase⟩

/-- A client whose server never answers, and whose stream fetches by itself. -/
def forlorn : Client where
  server := ⟨⟨"in-process"⟩, ⟨"console"⟩, none, fun _ => ⟨0, .hang⟩⟩
  setting := ⟨⟨"console"⟩, .standard, none, some fun _ _ => false⟩
  options := Options.default.withOffload .never

/-- It is dropped in the middle of its fetch: it closes at that time, having fetched once and taken
nothing. -/
theorem closed_at_once_brief :
    ∃ s', Reach forlorn.plan (.ofOptions forlorn.options .direct .empty) s' ∧
      s'.closed? = some .requested ∧ s'.now = 7 ∧ s'.consumed = [] ∧ s'.scene.begun = [0] ∧
      s'.hookCalls = [.closed] := by
  have hhooks : forlorn.setting.HooksReturn := by
    rintro panics hpanics journal e
    cases hpanics
    rfl
  have hstart : forlorn.start false .empty =
      (.ok (.ofOptions forlorn.options .direct .empty), .empty) := rfl
  let waiting : Stream :=
    ((Schedule.ofStream forlorn.plan (.ofOptions forlorn.options .direct .empty)).settle
      forlorn.plan 10).stream.atTime 7
  let r : Rehearsal.Run := ⟨waiting, true, false, []⟩
  have hr : Reach forlorn.plan (.ofOptions forlorn.options .direct .empty) r.stream := by
    have hsettle := Schedule.reach_settle forlorn.plan 10
      (.ofStream forlorn.plan (.ofOptions forlorn.options .direct .empty))
    rw [Schedule.ofStream_stream] at hsettle
    exact hsettle.tail (.time 7)
  have hrunning : (r.act .drop).stream.stage ≠ .crashed := by
    have hover : (r.act .drop).stream.isOver = false := by decide +kernel
    intro hcrashed
    unfold isOver at hover
    rw [hcrashed] at hover
    cases hover
  obtain ⟨hhalts, -, hcloses⟩ := closed_at_once (a := .drop) hhooks hstart hr rfl
  obtain ⟨n, hto, hnow, hclosed, -, hcalls, -⟩ := hcloses (by decide +kernel) hrunning []
  have hnone : (r.act .drop).stream.lifecycle.closeReason = none := by decide +kernel
  obtain ⟨hconsumed, -, hbegun, -⟩ := hhalts _ hto
  rw [hnone] at hclosed hcalls
  refine ⟨_, (hr.tail .close).trans hto, hclosed, hnow.trans (by decide +kernel), ?_,
    (hbegun rfl).trans (by decide +kernel), hcalls⟩
  exact hconsumed.trans (List.isEmpty_iff.mp (by decide +kernel))

end Stream

end RemoteConsole
