import RemoteConsole.Proofs.Stream.Farewell

/-!
# The protocol between driver and lifecycle

A lifecycle can be called out of turn; then it ignores the call and answers that there is nothing to
do. Its driver never does so.

* `Stream.call?`: the call that the next step of the driver makes. `Stream.Obeys`, `obeys_driver`:
  the driver carries out the answer, and a step without a call changes at most the health signal.
* `bearing_step`: what every call keeps of the bearing of a lifecycle, every step of a stream keeps.
* `heard_call`: every call of an orderly driver is heard. It rests on the deliveries: one that gives
  no reason to close is the one after which the stream goes on.
* `Outcome.Gives`, `Stream.HasCause`: what a reason to close comes from. `caused_step`: the reason
  that a lifecycle has recorded comes from the last outcome, or from a wish to close.
* `Stream.keeps_protocol`: this for every run.
-/

namespace RemoteConsole

/-- An outcome is the cause for a reason to close. -/
inductive Outcome.Gives : Outcome → CloseReason → Prop
  | ended : Gives (.ok none) .serverClosed
  | noticed {c : Chunk} {clean : Bool} (h : c.notice? = some clean) :
      Gives (.ok (some c)) (.shutdown clean)
  | invalid {e : FetchError} (h : e.isTerminal = true) : Gives (.error e) (.sessionInvalid e)
  | exhausted {e : FetchError} (h : e.isTerminal = false) : Gives (.error e) (.retriesExhausted e)

namespace Lifecycle

variable {l : Lifecycle} {r : CloseReason}

/-- A chunk gives the reason that is recorded for it. -/
theorem gives_of_reasonOf {chunk : Option Chunk} (h : reasonOf chunk = some r) :
    Outcome.Gives (.ok chunk) r := by
  cases chunk with
  | none =>
    cases h
    exact .ended
  | some c =>
    obtain ⟨clean, hnotice, rfl⟩ := Option.map_eq_some_iff.mp h
    exact .noticed hnotice

theorem receiveError_gives {e : FetchError} {now : Nat} (hnone : l.closeReason = none)
    (h : (l.receiveError e now).1.closeReason = some r) : Outcome.Gives (.error e) r := by
  have henter : (l.enter .backoff).closeReason = none := (l.enter_closeReason .backoff).trans hnone
  unfold receiveError at h
  dsimp only at h
  split at h
  · next hterminal =>
    cases h
    exact .invalid hterminal
  · next hterminal =>
    split at h
    · cases henter.symm.trans h
    · split at h
      · cases h
        exact .exhausted (Bool.eq_false_iff.mpr hterminal)
      · have hretry := l.failed.retry_closeReason e now
        cases henter.symm.trans (hretry.symm.trans h)

/-- A lifecycle without a reason to close has one after an outcome only if the outcome gives it,
also when it breaks off. -/
theorem receive_gives {o : Outcome} {now : Nat} (hphase : l.phase = .polling)
    (hnone : l.closeReason = none) (h : (l.receive o now).1.closeReason = some r) : o.Gives r := by
  cases o with
  | ok chunk =>
    rw [l.receive_chunk chunk now hphase, l.receiveChunk_eq chunk hphase, hnone,
      Option.or_none] at h
    exact gives_of_reasonOf h
  | error e =>
    rw [l.receive_error e now hphase] at h
    exact receiveError_gives hnone h

end Lifecycle

namespace Stream

variable {plan : Plan} {s s' : Stream} {r : CloseReason}

/-! ## Calls -/

/-- The call by which the next step of the driver moves the lifecycle on, if it makes one, and the
lifecycle that it is made on: when a delivery is reported, it has been made. -/
def call? (plan : Plan) (s : Stream) : Option (Lifecycle × Input) :=
  match s.stage with
  | .starting => some (s.lifecycle, .start s.now)
  | .executing (.deliver chunk) =>
    match Delivery.process plan.setting chunk s.delivery with
    | (d, .flow flow) => some ((s.afterDelivery d).lifecycle, .delivered flow s.now)
    | (_, .panicked) => none
  | .executing .wait => some (s.lifecycle, .requestClose)
  | .executing (.fetch _) => none
  | .executing (.close _) => none
  | .waiting poll =>
    if s.closeWanted then some (s.lifecycle, .requestClose)
    else
      match Poller.move plan.server plan.workerCapacity s.now (s.poller, poll, s.scene) with
      | .ready outcome _ => some (s.lifecycle, .receive outcome s.now)
      | .moved _ => none
      | .crashed _ => none
      | .blocked => none
  | .leaving _ => none
  | .finished _ => none
  | .crashed => none

/-- The stream goes on with the answer to a call: with the command, or by breaking off. -/
def Follows (s' : Stream) : Lifecycle × Output → Prop
  | (l, .command command) => s'.lifecycle = l.drained ∧ s'.stage = .executing command
  | (l, .broken _) => s'.lifecycle = l ∧ s'.stage = .crashed
  | (_, .waited _) => False

/-- From `s` to `s'` the driver went on with the answer to its call; without one it did nothing to
the lifecycle, except for the health signal, and has no new command. -/
def Obeys (plan : Plan) (s s' : Stream) : Prop :=
  match s.call? plan with
  | some (l, i) => s'.Follows (l.respond i)
  | none => s'.lifecycle.bearing.drained = s.lifecycle.bearing.drained ∧
      ∀ command, s'.stage ≠ .executing command

theorem Follows.stage_eq {answer : Lifecycle × Output} (h : s'.Follows answer) {command : Command}
    (hcommand : answer.2 = .command command) : s'.stage = .executing command := by
  obtain ⟨l, output⟩ := answer
  cases hcommand
  exact h.2

theorem Obeys.follows (h : Obeys plan s s') {l : Lifecycle} {i : Input}
    (hcall : s.call? plan = some (l, i)) : s'.Follows (l.respond i) := by
  unfold Obeys at h
  rw [hcall] at h
  exact h

theorem follows_consume (s : Stream) (o : Outcome) :
    (s.consume o).Follows (s.lifecycle.respond (.receive o s.now)) := by
  unfold Lifecycle.respond
  dsimp only
  generalize hreceive : s.lifecycle.receive o s.now = step
  obtain ⟨l, result⟩ := step
  cases result with
  | ok command =>
    rw [consume_ok hreceive]
    exact ⟨rfl, rfl⟩
  | error fault =>
    rw [consume_fault hreceive]
    exact ⟨rfl, rfl⟩

/-- The calls of the driver are those that `call?` names. -/
theorem obeys_driver (hm : DriverMove plan s s') : Obeys plan s s' := by
  unfold Obeys
  cases hm with
  | start hs =>
    simp only [call?, hs]
    exact ⟨rfl, rfl⟩
  | wait hs =>
    simp only [call?, hs]
    exact ⟨rfl, rfl⟩
  | requestClose hs hc =>
    simp only [call?, hs, hc, ↓reduceIte]
    exact ⟨rfl, rfl⟩
  | @deliver chunk hs =>
    simp only [call?, hs]
    generalize hprocess : Delivery.process plan.setting chunk s.delivery = result
    obtain ⟨d, ending⟩ := result
    cases ending with
    | flow flow =>
      rw [deliver_flow plan hprocess]
      exact ⟨rfl, rfl⟩
    | panicked =>
      rw [deliver_panicked hprocess]
      exact ⟨rfl, nofun⟩
  | @consume poll o p hs hc hmove =>
    simp only [call?, hs, hc, hmove, Bool.false_eq_true, ↓reduceIte]
    exact (s.withPoll p).follows_consume o
  | @health poll hs hc hmove hdue =>
    simp only [call?, hs, hc, hmove, Bool.false_eq_true, ↓reduceIte]
    refine ⟨s.fireHealth_drained, fun command hcommand => ?_⟩
    obtain ⟨l, published, heq, -⟩ := s.fireHealth_eq
    rw [heq] at hcommand
    cases hs.symm.trans hcommand
  | fetch hs | close hs | leave hs =>
    have hnone : s.call? plan = none := by simp only [call?, hs]
    rw [hnone]
    exact ⟨rfl, nofun⟩
  | poll hs hc hmove | crash hs hc hmove =>
    have hnone : s.call? plan = none := by
      simp only [call?, hs, hc, hmove, Bool.false_eq_true, ↓reduceIte]
    rw [hnone]
    exact ⟨rfl, nofun⟩

/-- The driver makes its calls on the lifecycle of the stream, but for the health signal. -/
theorem call_bearing {l : Lifecycle} {i : Input} (h : s.call? plan = some (l, i)) :
    l.bearing = s.lifecycle.bearing := by
  unfold call? at h
  split at h
  · cases h; rfl
  · split at h
    · cases h; rfl
    · cases h
  · cases h; rfl
  · cases h
  · cases h
  · split at h
    · cases h; rfl
    · split at h
      · cases h; rfl
      all_goals cases h
  all_goals cases h

/-- What every call keeps of the bearing, milestones apart, the driver keeps. -/
theorem bearing_driver {P : Bearing → Prop}
    (hrespond : ∀ (l : Lifecycle) i, P l.bearing.drained → P (l.respond i).1.bearing.drained)
    (h : P s.lifecycle.bearing.drained) (hm : DriverMove plan s s') :
    P s'.lifecycle.bearing.drained := by
  have hobeys := obeys_driver hm
  unfold Obeys at hobeys
  cases hcall : s.call? plan with
  | none =>
    rw [hcall] at hobeys
    rw [hobeys.1]
    exact h
  | some call =>
    obtain ⟨l, i⟩ := call
    rw [hcall] at hobeys
    rw [← call_bearing hcall] at h
    have hnext := hrespond l i h
    dsimp only at hobeys
    generalize l.respond i = answer at hobeys hnext
    obtain ⟨l', output⟩ := answer
    cases output with
    | command | broken => rw [hobeys.1]; exact hnext
    | waited => exact hobeys.elim

/-- Every step keeps it. -/
theorem bearing_step {P : Bearing → Prop}
    (hrespond : ∀ (l : Lifecycle) i, P l.bearing.drained → P (l.respond i).1.bearing.drained)
    (h : P s.lifecycle.bearing.drained) (hs : Step plan s s') :
    P s'.lifecycle.bearing.drained := by
  cases hs with
  | driver hm => exact bearing_driver hrespond h (.of_move hm)
  | worker hm =>
    obtain ⟨poller, scene, -, rfl⟩ := moveWorker_eq hm
    exact h
  | turn | time | close => exact h

/-- A driver that is about to make a call makes it. -/
theorem moves_of_call {call : Lifecycle × Input} (h : s.call? plan = some call) :
    ∃ s', DriverMove plan s s' := by
  unfold call? at h
  split at h
  · next hs => exact ⟨_, .start hs⟩
  · next chunk hs => exact ⟨_, .deliver hs⟩
  · next hs => exact ⟨_, .wait hs⟩
  · cases h
  · cases h
  · next poll hs =>
    split at h
    · next hc => exact ⟨_, .requestClose hs hc⟩
    · next hc =>
      have hc' : s.closeWanted = false := Bool.eq_false_iff.mpr hc
      split at h
      · next o p hmove => exact ⟨_, .consume hs hc' hmove⟩
      all_goals cases h
  all_goals cases h

/-- The lifecycle hears the calls of an orderly driver. -/
theorem heard_call (ho : s.IsOrderly) {l : Lifecycle} {i : Input}
    (h : s.call? plan = some (l, i)) : i.isHeard l.phase = true ∧ l.phase = s.lifecycle.phase := by
  unfold call? at h
  split at h
  · next hs =>
    cases h
    exact ⟨decide_eq_true (ho.starting hs).1, rfl⟩
  · next chunk hs =>
    obtain ⟨hphase, hgo, -⟩ := ho.deliver hs
    have hiff := Delivery.process_continue_iff plan.setting chunk s.delivery
    split at h
    · next d flow hprocess =>
      cases h
      refine ⟨?_, rfl⟩
      cases flow with
      | «continue» =>
        have hdelivering := (hgo (hiff.mp (by rw [hprocess]))).1
        exact decide_eq_true hdelivering
      | stop => exact decide_eq_true hphase
    · cases h
  · next hs => exact absurd hs ho.ne_wait
  · cases h
  · cases h
  · next poll hs =>
    have hpolling := (ho.waiting hs).1
    split at h
    · cases h
      exact ⟨decide_eq_true (by rw [hpolling]; decide), rfl⟩
    · split at h
      · cases h
        exact ⟨decide_eq_true hpolling, rfl⟩
      all_goals cases h
  all_goals cases h

/-! ## Causes -/

/-- What a stream closes for: a close that was wanted when no outcome had ended it, or the outcome
that it took last. -/
def HasCause (s : Stream) (r : CloseReason) : Prop :=
  r = .requested ∧ s.closeWanted = true ∧ (∀ o ∈ s.outcomes, o.isLast = false) ∨
    ∃ o, s.outcomes.getLast? = some o ∧ o.Gives r

/-- A reason that was recorded has its cause. -/
def Caused (s : Stream) : Prop := ∀ r, s.lifecycle.closeReason = some r → s.HasCause r

theorem HasCause.congr (h : s.HasCause r) (hconsumed : s'.consumed = s.consumed)
    (hwanted : s.closeWanted = true → s'.closeWanted = true) : s'.HasCause r := by
  unfold HasCause
  rw [outcomes_congr hconsumed]
  exact h.imp_left (And.imp_right (And.imp_left hwanted))

/-- A step that records nothing. -/
theorem Caused.congr (h : s.Caused) (hreason : s'.lifecycle.closeReason = s.lifecycle.closeReason)
    (hconsumed : s'.consumed = s.consumed)
    (hwanted : s.closeWanted = true → s'.closeWanted = true) : s'.Caused :=
  fun r hr => (h r (hreason.symm.trans hr)).congr hconsumed hwanted

theorem closeWanted_deliver (plan : Plan) (s : Stream) (chunk : Option Chunk) :
    (s.deliver plan chunk).closeWanted = s.closeWanted := by
  rcases deliver_cases plan s chunk with ⟨d, flow, l, command, -, -, heq⟩ | ⟨d, heq⟩
  · rw [heq]; rfl
  · rw [heq]; rfl

/-- An outcome is taken when nothing is recorded, so that only the outcome is a cause. -/
theorem caused_consume (hphase : s.lifecycle.phase = .polling)
    (hnone : s.lifecycle.closeReason = none) (o : Outcome) : (s.consume o).Caused := by
  intro r hr
  have htakes := takes_consume hphase hnone o
  have hlast : (s.consume o).outcomes.getLast? = some o := by
    rw [htakes.outcomes, List.getLast?_concat]
  have hsame : (s.consume o).lifecycle.closeReason =
      (s.lifecycle.receive o s.now).1.closeReason := by
    generalize hreceive : s.lifecycle.receive o s.now = step
    obtain ⟨l, result⟩ := step
    cases result with
    | ok command => rw [consume_ok hreceive]; rfl
    | error fault => rw [consume_fault hreceive]
  exact .inr ⟨o, hlast, Lifecycle.receive_gives hphase hnone (hsame.symm.trans hr)⟩

theorem caused_driver (h : s.Caused) (hkept : Kept plan s) (hm : DriverMove plan s s') :
    s'.Caused := by
  have ho := hkept.orderly
  cases hm with
  | start hs =>
    obtain ⟨hphase, -⟩ := ho.starting hs
    have hreason : (s.lifecycle.start s.now).1.closeReason = s.lifecycle.closeReason := by
      rw [s.lifecycle.start_eq hphase]
      exact s.lifecycle.enterPolling_closeReason s.now
    exact h.congr hreason rfl id
  | deliver hs =>
    have hd := delivers_deliver plan ho hs
    exact h.congr hd.reason hd.consumed (closeWanted_deliver plan s _).trans
  | wait hs => exact absurd hs ho.ne_wait
  | requestClose hs hc =>
    obtain ⟨hphase, hnone⟩ := ho.waiting hs
    rw [s.lifecycle.requestClose_eq (by rw [hphase]; decide), hnone]
    rintro r hr
    cases hr
    exact .inl ⟨rfl, hc, hkept.isOpen hnone⟩
  | @consume poll o p hs =>
    obtain ⟨hphase, hnone⟩ := ho.waiting hs
    exact caused_consume (s := s.withPoll p) hphase hnone o
  | health =>
    have hreason : s.fireHealth.lifecycle.closeReason = s.lifecycle.closeReason :=
      congrArg (·.closeReason) s.fireHealth_drained
    obtain ⟨l, published, heq, -⟩ := s.fireHealth_eq
    rw [heq] at hreason ⊢
    exact h.congr hreason rfl id
  | fetch | close | poll | crash | leave => exact h.congr rfl rfl id

theorem caused_step (h : s.Caused) (hkept : Kept plan s) (hs : Step plan s s') : s'.Caused := by
  cases hs with
  | driver hm => exact caused_driver h hkept (.of_move hm)
  | worker hm =>
    obtain ⟨poller, scene, -, rfl⟩ := moveWorker_eq hm
    exact h.congr rfl rfl id
  | turn | time => exact h.congr rfl rfl id
  | close => exact h.congr rfl rfl fun _ => rfl

theorem caused_reach (h : s.Caused) (hkept : Kept plan s) (hr : Reach plan s s') : s'.Caused :=
  hkept.preserves (fun _ _ hkept hcaused hs => caused_step hcaused hkept hs) h hr

/-- A stream that has ended has done so for a cause. -/
theorem hasCause_of_closed {c : Client} {isThreaded : Bool} {scene : Scene} {s₀ : Stream}
    (hstart : c.start isThreaded .empty = (.ok s₀, scene)) (hr : Reach c.plan s₀ s)
    (hclosed : s.closed? = some r) : s.HasCause r := by
  have hkept := kept_start hstart
  obtain ⟨-, hreason⟩ := (hkept.reach hr).orderly.closed_phase hclosed
  obtain ⟨poller, rfl, -⟩ := c.start_ok hstart
  exact caused_reach (fun r hr => by cases hr) hkept hr r hreason

/-! ## Main statement -/

/-- In every run the driver keeps to the protocol of its lifecycle, whatever panics. It is never
told that there is nothing to do. Every call that it makes is made in a phase in which it is heard,
and it goes on with the answer. While it waits for a fetch, no reason to close is recorded. A reason
that is recorded comes from a wish to close or from the outcome that was taken last. From then on
nothing is fetched for the stream and no outcome is taken, the reason stays, and no other one is
reported. -/
theorem keeps_protocol {c : Client} {isThreaded : Bool} {scene : Scene} {s₀ s : Stream}
    (hstart : c.start isThreaded .empty = (.ok s₀, scene)) (hr : Reach c.plan s₀ s) :
    s.stage ≠ .executing .wait ∧
    (∀ l i, s.call? c.plan = some (l, i) →
      i.isHeard l.phase = true ∧ l.phase = s.lifecycle.phase ∧
        (l.respond i).2 ≠ .command .wait) ∧
    (∀ s', s.moveDriver c.plan = some s' → Obeys c.plan s s') ∧
    (∀ poll, s.stage = .waiting poll → s.lifecycle.closeReason = none) ∧
    ∀ r, s.lifecycle.closeReason = some r → s.HasCause r ∧ ∀ s', Reach c.plan s s' →
      (∀ poll, s'.stage ≠ .waiting poll) ∧ s'.consumed = s.consumed ∧
        s'.lifecycle.closeReason = some r ∧
        ∀ r', r' ∈ s'.closings ∨ s'.closed? = some r' → r' = r := by
  have hkept : Kept c.plan s := (kept_start hstart).reach hr
  have ho := hkept.orderly
  have hcaused₀ : s₀.Caused := by
    obtain ⟨poller, rfl, -⟩ := c.start_ok hstart
    exact fun r hr => by cases hr
  refine ⟨ho.ne_wait, fun l i hcall => ?_, fun s' hm => obeys_driver (.of_move hm),
    fun poll hs => (ho.waiting hs).2, fun r hreason => ⟨?_, fun s' hto => ?_⟩⟩
  · obtain ⟨hheard, hphase⟩ := heard_call ho hcall
    refine ⟨hheard, hphase, fun hwait => ?_⟩
    -- the driver would carry out the answer
    obtain ⟨s', hm⟩ := moves_of_call hcall
    have hfollows := (obeys_driver hm).follows hcall
    exact (hkept.driver hm).orderly.ne_wait (hfollows.stage_eq hwait)
  · exact caused_reach hcaused₀ (kept_start hstart) hr r hreason
  · obtain ⟨hconsumed, hreason'⟩ := hkept.closing_reach hreason hto
    have ho' := (hkept.reach hto).orderly
    refine ⟨fun poll hs => ?_, hconsumed, hreason', ?_⟩
    · cases hreason'.symm.trans (ho'.waiting hs).2
    · rintro r' (hmem | hclosed)
      · rcases told_reach (untold_start hstart) (hr.trans hto) with hu | ⟨told, htold⟩
        · rw [hu.closings] at hmem
          cases hmem
        · rw [htold.closings, List.mem_singleton] at hmem
          exact hmem.trans (Option.some.inj (htold.kept.symm.trans hreason'))
      · exact Option.some.inj ((ho'.closed_phase hclosed).2.symm.trans hreason')

/-- A stream makes its first call, and is closed while its worker waits for an answer that never
comes. -/
theorem keeps_protocol_brief :
    let c := Client.served .hang .always
    let s₀ := Stream.ofOptions c.options .pending .empty
    s₀.call? c.plan = some (s₀.lifecycle, .start 0) ∧
      (s₀.lifecycle.respond (.start 0)).2 ≠ .command .wait ∧
      ∃ s, Reach c.plan s₀ s ∧ s.HasCause .requested ∧ ∀ s', Reach c.plan s s' →
        (∀ poll, s'.stage ≠ .waiting poll) ∧ s'.consumed = [] ∧
          ∀ r', r' ∈ s'.closings ∨ s'.closed? = some r' → r' = .requested := by
  intro c s₀
  have hstart : c.start true .empty = (.ok s₀, .empty) := rfl
  have hr := Rehearsal.reach_runUntil c.plan 1000 100 10 ⟨s₀, true, true, [(5, .close)]⟩
  obtain ⟨-, hcalls, -⟩ := keeps_protocol hstart .refl
  obtain ⟨-, -, -, -, hreason⟩ := keeps_protocol hstart hr
  obtain ⟨hcause, hrest⟩ := hreason .requested (by decide +kernel)
  refine ⟨rfl, (hcalls _ _ rfl).2.2, _, hr, hcause, fun s' hto => ?_⟩
  obtain ⟨hwaiting, hconsumed, -, hsame⟩ := hrest s' hto
  exact ⟨hwaiting, hconsumed.trans (List.isEmpty_iff.mp (by decide +kernel)), hsame⟩

end Stream

end RemoteConsole
