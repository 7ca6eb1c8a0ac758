import Mathlib.Data.List.DropRight
import RemoteConsole.Proofs.Client.Start
import RemoteConsole.Proofs.Poller.Carried
import RemoteConsole.Proofs.Stream.Parts
import RemoteConsole.Proofs.Stream.Steps

/-!
# What a stream shows

* `Stream.brought`: the successful outcomes that the driver took, and `Stream.undelivered` the one
  of them that it has not delivered yet.
* `Stream.IsOrderly`: phase and close reason are those of the stage, as `Stands` lists them.
* `Stream.Kept`: the invariant of a run: what was delivered was shown, in the order in which it was
  fetched, and what is on its way to the driver is all the rest.
* `published_reach`: an event that was published is never taken back.
* `shown_eq`: in every order of steps the display is passed the items of all outcomes that were
  delivered, and no others.

None of this needs hooks that return, or a server that answers.
-/

namespace RemoteConsole

/-- After the outcome there are no more: the console was closed, a notice came, or the session is
gone. -/
def Outcome.isLast : Outcome → Bool
  | .ok none => true
  | .ok (some c) => (c.tips.findSome? Chunk.flag?).isSome
  | .error e => e.isTerminal

theorem Outcome.isLast_ok (chunk : Option Chunk) :
    Outcome.isLast (.ok chunk) = (Lifecycle.reasonOf chunk).isSome := by
  cases chunk with
  | none => rfl
  | some c => rw [isLast, Lifecycle.reasonOf, Chunk.notice?_eq, Option.isSome_map]

namespace Stream

/-- The outcomes that the driver took. -/
def outcomes (s : Stream) : List Outcome := s.consumed.map (·.2)

/-- What the successful ones among them brought. -/
def brought (s : Stream) : List (Option Chunk) := s.outcomes.filterMap Except.toOption

/-- What the driver is about to deliver. -/
def undelivered (s : Stream) : List (Option Chunk) :=
  match s.stage with
  | .executing (.deliver (some c)) => [some c]
  | _ => []

/-- What is on its way to the driver. -/
def carried (s : Stream) : List (Option Chunk) :=
  s.poller.carried ++
    match s.stage with
    | .waiting poll => poll.carried
    | _ => []

/-- The phase and the close reason that a driver has at each stage. -/
def Stands (phase : Phase) (reason : Option CloseReason) : Stage → Prop
  | .starting => phase = .idle ∧ reason = none
  | .executing (.fetch _) => phase = .polling ∧ reason = none
  | .waiting _ => phase = .polling ∧ reason = none
  | .executing (.deliver (some c)) => phase = .delivering ∧ reason = c.notice?.map .shutdown
  | .executing (.deliver none) =>
    (phase = .delivering ∨ phase = .backoff ∨ phase = .polling) ∧ ∃ r, reason = some r
  | .executing (.close r) => phase = .closed ∧ reason = some r
  | .executing .wait => False
  | .leaving r => phase = .closed ∧ reason = some r
  | .finished r => phase = .closed ∧ reason = some r
  | .crashed => True

/-- Phase, close reason and stage fit each other. -/
def IsOrderly (s : Stream) : Prop := Stands s.lifecycle.phase s.lifecycle.closeReason s.stage

/-- The invariant of a run. -/
structure Kept (plan : Plan) (s : Stream) : Prop where
  orderly : s.IsOrderly
  fits : ∀ poll, s.stage = .waiting poll → s.poller.Fits poll
  shown : ∃ delivered, s.brought = delivered ++ s.undelivered ∧
    s.scene.outlet.content = (delivered.flatMap Chunk.contentsIn, plan.setting.passed
      (plan.setting.converter.itemsAfter [] (delivered.flatMap Chunk.contentsIn)))
  order : s.brought <+: plan.server.brought s.scene.calls
  whole : s.lifecycle.closeReason = none → s.stage ≠ .crashed →
    s.brought ++ s.carried = plan.server.brought s.scene.calls
  isOpen : s.lifecycle.closeReason = none → ∀ o ∈ s.outcomes, o.isLast = false
  last : ∀ o ∈ s.outcomes.dropLast, o.isLast = false

variable {plan : Plan} {s s' : Stream}

/-! ## Single steps -/

theorem IsOrderly.stands (h : s.IsOrderly) {stage : Stage} (hs : s.stage = stage) :
    Stands s.lifecycle.phase s.lifecycle.closeReason stage := hs ▸ h

theorem IsOrderly.starting (h : s.IsOrderly) (hs : s.stage = .starting) :
    s.lifecycle.phase = .idle ∧ s.lifecycle.closeReason = none := h.stands hs

theorem IsOrderly.waiting (h : s.IsOrderly) {poll : Poll} (hs : s.stage = .waiting poll) :
    s.lifecycle.phase = .polling ∧ s.lifecycle.closeReason = none := h.stands hs

/-- A driver never has nothing to do. -/
theorem IsOrderly.ne_wait (h : s.IsOrderly) : s.stage ≠ .executing .wait := fun hs => h.stands hs

/-- What a step does that takes an outcome. -/
structure Takes (s s' : Stream) (o : Outcome) : Prop where
  orderly : s'.IsOrderly
  consumed : s'.consumed = s.consumed ++ [(s.now, o)]
  scene : s'.scene = s.scene
  poller : s'.poller = s.poller
  idle : ∀ poll, s'.stage ≠ .waiting poll
  undelivered : s'.undelivered = match o with | .ok (some c) => [some c] | _ => []
  isOpen : s'.lifecycle.closeReason = none → o.isLast = false

theorem takes_consume (hp : s.lifecycle.phase = .polling) (hr : s.lifecycle.closeReason = none)
    (o : Outcome) : Takes s (s.consume o) o := by
  cases o with
  | ok chunk =>
    have hreceive := s.lifecycle.receive_chunk chunk s.now hp
    have hbearing := s.lifecycle.bearing_receiveChunk chunk hp
    have hphase : (s.lifecycle.receiveChunk chunk).1.phase = .delivering :=
      congrArg (·.phase) hbearing
    have hreason : (s.lifecycle.receiveChunk chunk).1.closeReason = Lifecycle.reasonOf chunk := by
      rw [show (s.lifecycle.receiveChunk chunk).1.closeReason = _ from
        congrArg (·.closeReason) hbearing, hr]
      exact Option.or_none
    rw [consume_ok hreceive]
    refine ⟨?_, rfl, rfl, rfl, (fun _ h => by cases h), ?_, ?_⟩
    · cases chunk with
      | none => exact ⟨.inl hphase, _, hreason⟩
      | some c => exact ⟨hphase, hreason⟩
    · cases chunk <;> rfl
    · intro hnone
      replace hnone : (s.lifecycle.receiveChunk chunk).1.closeReason = none := hnone
      rw [Outcome.isLast_ok, ← hreason, hnone]
      rfl
  | error e =>
    have hreceive := s.lifecycle.receive_error e s.now hp
    rcases s.lifecycle.receiveError_cases hp e s.now with
      ⟨l, reason, heq, hphase, hreason⟩ | ⟨ht, ⟨l, delay, heq, hphase, hreason⟩ | ⟨l, fault, heq⟩⟩
    · rw [consume_ok (hreceive.trans heq)]
      refine ⟨?_, rfl, rfl, rfl, (fun _ h => by cases h), rfl, ?_⟩
      · exact ⟨.inr (.inl hphase), _, hreason⟩
      · intro hnone
        replace hnone : l.closeReason = none := hnone
        rw [hreason] at hnone
        cases hnone
    · rw [consume_ok (hreceive.trans heq)]
      exact ⟨⟨hphase, hreason.trans hr⟩, rfl, rfl, rfl, (fun _ h => by cases h), rfl, fun _ => ht⟩
    · rw [consume_fault (hreceive.trans heq)]
      exact ⟨trivial, rfl, rfl, rfl, (fun _ h => by cases h), rfl, fun _ => ht⟩

/-- What a step does that delivers what a fetch brought. -/
structure Delivers (plan : Plan) (s s' : Stream) (chunk : Option Chunk) : Prop where
  orderly : s'.IsOrderly
  consumed : s'.consumed = s.consumed
  calls : s'.scene.calls = s.scene.calls
  poller : s'.poller = s.poller
  idle : ∀ poll, s'.stage ≠ .waiting poll
  undelivered : s'.undelivered = []
  reason : s'.lifecycle.closeReason = s.lifecycle.closeReason
  content : s'.scene.outlet.content =
    (s.scene.outlet.converted ++ Chunk.contentsIn chunk,
      s.scene.outlet.shown ++ plan.setting.passed
        (plan.setting.converter.itemsAfter s.scene.outlet.converted (Chunk.contentsIn chunk)))

/-- At the time of a delivery, the reason to close is the one that it gives, if it gives one. -/
theorem IsOrderly.deliver (h : s.IsOrderly) {chunk : Option Chunk}
    (hs : s.stage = .executing (.deliver chunk)) :
    (s.lifecycle.phase = .delivering ∨ s.lifecycle.phase = .backoff ∨
      s.lifecycle.phase = .polling) ∧
    (Lifecycle.reasonOf chunk = none →
      s.lifecycle.phase = .delivering ∧ s.lifecycle.closeReason = none) ∧
    (Lifecycle.reasonOf chunk ≠ none → ∃ reason, s.lifecycle.closeReason = some reason) := by
  have hstands := h.stands hs
  cases chunk with
  | none =>
    obtain ⟨hphase, hreason⟩ := hstands
    exact ⟨hphase, (fun hnone => by cases hnone), fun _ => hreason⟩
  | some c =>
    obtain ⟨hphase, hreason⟩ := hstands
    refine ⟨.inl hphase, fun hnone => ⟨hphase, hreason.trans hnone⟩, fun hsome => ?_⟩
    rw [hreason]
    exact Option.ne_none_iff_exists'.mp hsome

theorem delivers_deliver (plan : Plan) (h : s.IsOrderly) {chunk : Option Chunk}
    (hs : s.stage = .executing (.deliver chunk)) :
    Delivers plan s (s.deliver plan chunk) chunk := by
  obtain ⟨hphase, hcontinue, hstop⟩ := h.deliver hs
  have hcontent := Delivery.process_content plan.setting chunk s.delivery
  have hiff := Delivery.process_continue_iff plan.setting chunk s.delivery
  generalize hprocess : Delivery.process plan.setting chunk s.delivery = result at hcontent hiff
  obtain ⟨d, ending⟩ := result
  cases ending with
  | panicked =>
    rw [deliver_panicked hprocess]
    exact ⟨trivial, rfl, rfl, rfl, (fun _ h => by cases h), rfl, rfl, hcontent⟩
  | flow flow =>
    rw [deliver_flow plan hprocess]
    have hnow : (s.afterDelivery d).lifecycle.closeReason = s.lifecycle.closeReason := rfl
    cases flow with
    | «continue» =>
      obtain ⟨hdelivering, hnone⟩ := hcontinue (hiff.mp rfl)
      have hl : (s.afterDelivery d).lifecycle.phase = .delivering := hdelivering
      rw [Lifecycle.delivered_continue _ hl]
      have hreason := (s.afterDelivery d).lifecycle.enterPolling_closeReason s.now
      refine ⟨⟨?_, ?_⟩, rfl, rfl, rfl, (fun _ h => by cases h), rfl, hreason, hcontent⟩
      · exact Lifecycle.enterPolling_phase _ _
      · exact hreason.trans (hnow.trans hnone)
    | stop =>
      obtain ⟨reason, hreason⟩ := hstop fun hnone => by cases hiff.mpr hnone
      have hl : (s.afterDelivery d).lifecycle.closeReason = some reason := hreason
      have hopen : (s.afterDelivery d).lifecycle.phase ≠ .closed := by
        show s.lifecycle.phase ≠ .closed
        rcases hphase with h | h | h <;> rw [h] <;> decide
      have hbearing := (s.afterDelivery d).lifecycle.bearing_close hopen hl
      have hclosed : (s.afterDelivery d).lifecycle.close.1.phase = .closed :=
        congrArg (·.phase) hbearing
      have hkept : (s.afterDelivery d).lifecycle.close.1.closeReason = some reason :=
        (congrArg (·.closeReason) hbearing).trans hl
      have hcommand := (s.afterDelivery d).lifecycle.close_command hl
      have hp : (s.afterDelivery d).lifecycle.phase = .delivering ∨
          (s.afterDelivery d).lifecycle.phase = .backoff ∨
          (s.afterDelivery d).lifecycle.phase = .polling := hphase
      rw [Lifecycle.delivered_stop _ hp]
      refine ⟨?_, rfl, rfl, rfl, (fun _ h => by cases h), ?_, hkept.trans hreason.symm, hcontent⟩
      · show Stands _ _ (.executing (s.afterDelivery d).lifecycle.close.2)
        rw [hcommand]
        exact ⟨hclosed, hkept⟩
      · unfold undelivered
        show (match Stage.executing (s.afterDelivery d).lifecycle.close.2 with
          | .executing (.deliver (some c)) => [some c]
          | _ => []) = []
        rw [hcommand]

/-! ## The invariant -/

theorem Takes.brought {o : Outcome} (h : Takes s s' o) :
    s'.brought = s.brought ++ o.toOption.toList := by
  unfold Stream.brought outcomes
  rw [h.consumed, List.map_append, List.filterMap_append]
  cases o <;> rfl

theorem Takes.outcomes {o : Outcome} (h : Takes s s' o) : s'.outcomes = s.outcomes ++ [o] := by
  unfold Stream.outcomes
  rw [h.consumed, List.map_append]
  rfl

theorem brought_congr (h : s'.consumed = s.consumed) : s'.brought = s.brought := by
  unfold brought outcomes; rw [h]

theorem outcomes_congr (h : s'.consumed = s.consumed) : s'.outcomes = s.outcomes := by
  unfold outcomes; rw [h]

theorem carried_of_not_waiting (h : ∀ poll, s.stage ≠ .waiting poll) :
    s.carried = s.poller.carried := by
  unfold carried
  split
  · next poll hs => exact absurd hs (h poll)
  · exact List.append_nil _

theorem carried_waiting {poll : Poll} (h : s.stage = .waiting poll) :
    s.carried = s.poller.carried ++ poll.carried := by
  unfold carried; rw [h]

theorem undelivered_waiting {poll : Poll} (h : s.stage = .waiting poll) : s.undelivered = [] := by
  unfold undelivered; rw [h]

theorem undelivered_contents {chunk : Option Chunk}
    (h : s.stage = .executing (.deliver chunk)) :
    s.undelivered.flatMap Chunk.contentsIn = Chunk.contentsIn chunk := by
  unfold undelivered
  rw [h]
  cases chunk with
  | none => rfl
  | some c => exact List.append_nil _

/-- A step that takes and delivers nothing keeps the invariant. -/
theorem Kept.quiet (h : Kept plan s) (ho : s'.IsOrderly)
    (hfits : ∀ poll, s'.stage = .waiting poll → s'.poller.Fits poll)
    (hconsumed : s'.consumed = s.consumed) (hscene : s'.scene = s.scene)
    (hundelivered : s'.undelivered = s.undelivered)
    (hopen : s'.lifecycle.closeReason = none →
      s.lifecycle.closeReason = none ∧ s.stage ≠ .crashed ∧ s'.carried = s.carried) :
    Kept plan s' where
  orderly := ho
  fits := hfits
  shown := by
    rw [brought_congr hconsumed, hscene, hundelivered]
    exact h.shown
  order := by
    rw [brought_congr hconsumed, hscene]
    exact h.order
  whole hnone _ := by
    obtain ⟨hreason, hstage, hcarried⟩ := hopen hnone
    rw [brought_congr hconsumed, hscene, hcarried]
    exact h.whole hreason hstage
  isOpen hnone := by
    rw [outcomes_congr hconsumed]
    exact h.isOpen (hopen hnone).1
  last := by
    rw [outcomes_congr hconsumed]
    exact h.last

/-- A step that takes the first of what is on its way keeps the invariant. -/
theorem Kept.takes (h : Kept plan s) {o : Outcome} {poll : Poll} {s₁ : Stream}
    (hs : s.stage = .waiting poll) (ht : Takes s₁ s' o) (hconsumed : s₁.consumed = s.consumed)
    (hcarried : s.carried = o.toOption.toList ++ s₁.poller.carried)
    (hcalls : s₁.scene.calls = s.scene.calls)
    (hcontent : s₁.scene.outlet.content = s.scene.outlet.content) : Kept plan s' := by
  have hbrought : s'.brought = s.brought ++ o.toOption.toList := by
    rw [ht.brought, brought_congr hconsumed]
  have houtcomes : s'.outcomes = s.outcomes ++ [o] := by
    rw [ht.outcomes, outcomes_congr hconsumed]
  have hopen := h.isOpen (h.orderly.waiting hs).2
  have hwhole : s'.brought ++ s'.carried = plan.server.brought s'.scene.calls := by
    rw [hbrought, carried_of_not_waiting ht.idle, ht.poller, ht.scene, hcalls, List.append_assoc,
      ← hcarried]
    exact h.whole (h.orderly.waiting hs).2 (by rw [hs]; exact fun hc => by cases hc)
  refine ⟨ht.orderly, fun poll hp => absurd hp (ht.idle poll), ?_, ⟨_, hwhole⟩, fun _ _ => hwhole,
    fun hnone => ?_, ?_⟩
  · obtain ⟨delivered, hb, hd⟩ := h.shown
    rw [undelivered_waiting hs, List.append_nil] at hb
    rw [ht.undelivered, hbrought, hb, ht.scene, hcontent, hd]
    -- What came without a chunk counts as delivered at once.
    match o with
    | .ok (some c) => exact ⟨delivered, rfl, rfl⟩
    | .ok none =>
      refine ⟨delivered ++ [none], (List.append_nil _).symm, ?_⟩
      have hnone : (delivered ++ [none]).flatMap Chunk.contentsIn =
          delivered.flatMap Chunk.contentsIn := by
        rw [List.flatMap_append]
        exact List.append_nil _
      rw [hnone]
    | .error _ => exact ⟨delivered, rfl, rfl⟩
  · rw [houtcomes]
    intro o' ho'
    rcases List.mem_append.mp ho' with ho' | ho'
    · exact hopen o' ho'
    · rw [List.mem_singleton.mp ho']
      exact ht.isOpen hnone
  · rw [houtcomes, List.dropLast_concat]
    exact hopen

/-- A step that delivers keeps the invariant. -/
theorem Kept.delivers (h : Kept plan s) {chunk : Option Chunk}
    (hs : s.stage = .executing (.deliver chunk)) (hd : Delivers plan s s' chunk) :
    Kept plan s' where
  orderly := hd.orderly
  fits poll hp := absurd hp (hd.idle poll)
  shown := by
    obtain ⟨delivered, hb, hcontent⟩ := h.shown
    obtain ⟨hconverted, hshown⟩ := Prod.mk.inj hcontent
    refine ⟨s.brought, ?_, ?_⟩
    · rw [hd.undelivered, List.append_nil, brought_congr hd.consumed]
    · rw [hd.content, hconverted, hshown, ← Setting.passed_append, hb, List.flatMap_append,
        undelivered_contents hs, Converter.itemsAfter_append, List.nil_append]
  order := by
    rw [brought_congr hd.consumed, hd.calls]
    exact h.order
  whole hnone _ := by
    rw [hd.reason] at hnone
    have hidle : ∀ poll, s.stage ≠ .waiting poll := by
      rw [hs]; exact fun _ hp => by cases hp
    have hwhole := h.whole hnone (by rw [hs]; exact fun hc => by cases hc)
    rw [carried_of_not_waiting hidle] at hwhole
    rw [brought_congr hd.consumed, hd.calls, carried_of_not_waiting hd.idle, hd.poller]
    exact hwhole
  isOpen hnone := by
    rw [hd.reason] at hnone
    rw [outcomes_congr hd.consumed]
    exact h.isOpen hnone
  last := by
    rw [outcomes_congr hd.consumed]
    exact h.last

/-- A poll that goes on keeps the invariant. -/
theorem Kept.poll (h : Kept plan s) {poll : Poll} {p : Poller.State} (hs : s.stage = .waiting poll)
    (hm : Poller.move plan.server plan.workerCapacity s.now (s.poller, poll, s.scene) = .moved p) :
    Kept plan (s.withPoll p) := by
  obtain ⟨poller, poll', scene⟩ := p
  obtain ⟨hfits, hcontent, new, hcarried, hadds⟩ := Poller.carried_move_moved (h.fits poll hs) hm
  obtain ⟨hphase, hreason⟩ := h.orderly.waiting hs
  have hwhole := h.whole hreason (by rw [hs]; exact fun hc => by cases hc)
  rw [carried_waiting hs] at hwhole
  have hwhole' : s.brought ++ (poller.carried ++ poll'.carried) =
      plan.server.brought scene.calls := by
    rw [hcarried, hadds, ← hwhole]
    simp only [List.append_assoc]
  refine ⟨?_, fun p hp => ?_, ?_, ⟨_, hwhole'⟩, fun _ _ => hwhole', h.isOpen, h.last⟩
  · exact ⟨hphase, hreason⟩
  · cases hp
    exact hfits
  · obtain ⟨delivered, hb, hd⟩ := h.shown
    rw [undelivered_waiting hs] at hb
    exact ⟨delivered, hb, hcontent.trans hd⟩

theorem Kept.driver (h : Kept plan s) (hm : DriverMove plan s s') : Kept plan s' := by
  have ho := h.orderly
  unfold IsOrderly at ho
  cases hm with
  | start hs =>
    rw [hs] at ho
    obtain ⟨hphase, hreason⟩ := ho
    rw [s.lifecycle.start_eq hphase]
    refine h.quiet ⟨?_, ?_⟩ (fun _ hp => by cases hp) rfl rfl ?_ fun _ => ⟨hreason, ?_, ?_⟩
    · exact s.lifecycle.enterPolling_phase s.now
    · exact (s.lifecycle.enterPolling_closeReason s.now).trans hreason
    · unfold undelivered; rw [hs]; rfl
    · rw [hs]; exact fun hc => by cases hc
    · unfold carried; rw [hs]; rfl
  | fetch hs =>
    rw [hs] at ho
    refine h.quiet ho (fun poll hp => ?_) rfl rfl ?_ fun _ => ⟨ho.2, ?_, ?_⟩
    · cases hp
      show s.poller.Fits _
      cases s.poller <;> trivial
    · unfold undelivered; rw [hs]
    · rw [hs]; exact fun hc => by cases hc
    · unfold carried; rw [hs]; rfl
  | deliver hs => exact h.delivers hs (delivers_deliver plan h.orderly hs)
  | close hs =>
    rw [hs] at ho
    refine h.quiet ho (fun _ hp => by cases hp) rfl rfl ?_ fun hnone => ?_
    · unfold undelivered; rw [hs]
    · cases ho.2.symm.trans hnone
  | wait hs => rw [hs] at ho; exact absurd ho id
  | @requestClose poll hs hc =>
    obtain ⟨hphase, hreason⟩ := h.orderly.waiting hs
    rw [s.lifecycle.requestClose_eq (by rw [hphase]; decide)]
    refine h.quiet ⟨.inr (.inr hphase), _, rfl⟩ (fun _ hp => by cases hp) rfl rfl ?_ fun hnone => ?_
    · rw [undelivered_waiting hs]; rfl
    · cases hnone
  | poll hs hc hm => exact h.poll hs hm
  | @consume poll o p hs hc hm =>
    obtain ⟨hphase, hreason⟩ := h.orderly.waiting hs
    obtain ⟨hcarried, hcalls, hcontent⟩ := Poller.carried_move_ready (h.fits poll hs) hm
    have hp : (s.withPoll p).lifecycle.phase = .polling := hphase
    rw [← carried_waiting hs] at hcarried
    exact h.takes hs (takes_consume hp hreason o) rfl hcarried hcalls hcontent
  | @crash poll p hs hc hm =>
    have hscene : p.2.2 = s.scene := Poller.move_crashed hm
    obtain ⟨-, hreason⟩ := h.orderly.waiting hs
    refine ⟨trivial, (fun _ hp => by cases hp), ?_, ?_, fun _ hne => absurd rfl hne, h.isOpen,
      h.last⟩
    · obtain ⟨delivered, hb, hd⟩ := h.shown
      rw [undelivered_waiting hs] at hb
      exact ⟨delivered, hb, (congrArg (·.outlet.content) hscene).trans hd⟩
    · have horder := h.order
      rw [← hscene] at horder
      exact horder
  | @health poll hs hc hm hd =>
    have hphase : s.fireHealth.lifecycle.phase = s.lifecycle.phase :=
      congrArg (·.phase) s.fireHealth_drained
    have hreason : s.fireHealth.lifecycle.closeReason = s.lifecycle.closeReason :=
      congrArg (·.closeReason) s.fireHealth_drained
    obtain ⟨l, published, heq, -⟩ := s.fireHealth_eq
    rw [heq] at hphase hreason ⊢
    refine h.quiet ?_ h.fits rfl rfl rfl fun hnone => ⟨hreason.symm.trans hnone, ?_, rfl⟩
    · show Stands l.phase l.closeReason s.stage
      rw [show l.phase = _ from hphase, show l.closeReason = _ from hreason]
      exact ho
    · rw [hs]; exact fun hc => by cases hc
  | leave hs =>
    rw [hs] at ho
    refine h.quiet ho (fun _ hp => by cases hp) rfl rfl ?_ fun hnone => ?_
    · unfold undelivered; rw [hs]
    · cases ho.2.symm.trans hnone

theorem Kept.worker (h : Kept plan s) (hm : s.moveWorker plan = some s') : Kept plan s' := by
  obtain ⟨poller, scene, hp, rfl⟩ := moveWorker_eq hm
  obtain ⟨new, hcarried, hadds, hcontent⟩ := Poller.carried_moveWorker hp
  refine ⟨h.orderly, fun poll hs => Poller.fits_moveWorker hp (h.fits poll hs), ?_, ?_, ?_,
    h.isOpen, h.last⟩
  · obtain ⟨delivered, hb, hd⟩ := h.shown
    exact ⟨delivered, hb, hcontent.trans hd⟩
  · have horder : s.brought <+: plan.server.brought scene.calls := by
      rw [hadds]
      exact h.order.trans (List.prefix_append _ _)
    exact horder
  · intro hnone hstage
    have hwhole := h.whole hnone hstage
    -- A worker fetches only while the poll does not.
    have hpoll : ∀ poll, s.stage = .waiting poll → new ≠ [] → poll.carried = [] := by
      intro poll hs hnew
      have hfits := h.fits poll hs
      cases hrunning : s.poller with
      | running w =>
        rw [hrunning] at hfits
        cases poll with
        | fresh | requesting => rfl
        | delaying | fetching => exact absurd hfits id
      | direct | pending | fallback | stopped => rw [hrunning] at hp; cases hp
    show s.brought ++ (poller.carried ++ _) = plan.server.brought scene.calls
    rw [hadds, ← hwhole, hcarried]
    unfold carried
    by_cases hnew : new = []
    · rw [hnew, List.append_nil, List.append_nil]
    · cases hs : s.stage with
      | waiting poll =>
        simp only [hpoll poll hs hnew, List.append_nil, List.append_assoc]
      | starting | executing | leaving | finished | crashed =>
        simp only [List.append_nil, List.append_assoc]

theorem Kept.step (h : Kept plan s) (hs : Step plan s s') : Kept plan s' := by
  cases hs with
  | driver hm => exact h.driver (.of_move hm)
  | worker hm => exact h.worker hm
  | turn => exact ⟨h.orderly, h.fits, h.shown, h.order, h.whole, h.isOpen, h.last⟩
  | time t => exact ⟨h.orderly, h.fits, h.shown, h.order, h.whole, h.isOpen, h.last⟩
  | close => exact ⟨h.orderly, h.fits, h.shown, h.order, h.whole, h.isOpen, h.last⟩

theorem Kept.reach (h : Kept plan s) (hr : Reach plan s s') : Kept plan s' := by
  induction hr with
  | refl => exact h
  | tail _ hstep ih => exact ih.step hstep

/-- What every step of a stream preserves that keeps the invariant holds in every run. -/
theorem Kept.preserves {P : Stream → Prop}
    (hstep : ∀ s s', Kept plan s → P s → Step plan s s' → P s') (h : Kept plan s) (hp : P s)
    (hr : Reach plan s s') : P s' := by
  induction hr with
  | refl => exact hp
  | tail hto hlast ih => exact hstep _ _ (h.reach hto) ih hlast

/-! ## After the end -/

/-- A driver that has a reason to close takes no more outcomes. -/
theorem IsOrderly.closing_driver (h : s.IsOrderly) {reason : CloseReason}
    (hr : s.lifecycle.closeReason = some reason) (hm : DriverMove plan s s') :
    s'.consumed = s.consumed ∧ s'.lifecycle.closeReason = some reason := by
  have hwaiting : ∀ poll, s.stage ≠ .waiting poll := by
    intro poll hs
    cases hr.symm.trans (h.waiting hs).2
  cases hm with
  | start hs | fetch hs => cases hr.symm.trans (h.stands hs).2
  | wait hs => exact absurd hs h.ne_wait
  | deliver hs =>
    have hd := delivers_deliver plan h hs
    exact ⟨hd.consumed, hd.reason.trans hr⟩
  | close | leave => exact ⟨rfl, hr⟩
  | requestClose hs | poll hs | consume hs | crash hs | health hs => exact absurd hs (hwaiting _)

theorem Kept.closing_reach (h : Kept plan s) {reason : CloseReason}
    (hr : s.lifecycle.closeReason = some reason) (hreach : Reach plan s s') :
    s'.consumed = s.consumed ∧ s'.lifecycle.closeReason = some reason := by
  refine h.preserves (P := fun s' => s'.consumed = s.consumed ∧
    s'.lifecycle.closeReason = some reason) ?_ ⟨rfl, hr⟩ hreach
  rintro s₁ s₂ hkept ⟨hconsumed, hreason⟩ hstep
  cases hstep with
  | driver hm =>
    obtain ⟨hc, hr'⟩ := hkept.orderly.closing_driver hreason (.of_move hm)
    exact ⟨hc.trans hconsumed, hr'⟩
  | worker hm =>
    obtain ⟨poller, scene, -, rfl⟩ := moveWorker_eq hm
    exact ⟨hconsumed, hreason⟩
  | turn | time | close => exact ⟨hconsumed, hreason⟩

/-! ## Events -/

theorem published_proceed (s : Stream) (next : Lifecycle × Command) :
    s.published <+: (s.proceed next).published := List.prefix_append _ _

theorem published_step (hstep : Step plan s s') : s.published <+: s'.published := by
  cases hstep with
  | driver hm =>
    cases DriverMove.of_move hm with
    | start | wait | requestClose => exact published_proceed s _
    | fetch | close | leave | poll | crash => exact List.prefix_rfl
    | deliver =>
      rcases deliver_cases plan s _ with ⟨d, flow, l, command, -, -, heq⟩ | ⟨d, heq⟩
      · rw [heq]
        exact published_proceed (s.afterDelivery d) _
      · rw [heq]
        exact List.prefix_rfl
    | @consume _ o p =>
      rcases (s.withPoll p).consume_cases o with ⟨l, command, -, heq⟩ | ⟨l, fault, -, heq⟩
      · rw [heq]
        exact published_proceed ((s.withPoll p).taking o) _
      · rw [heq]
        exact List.prefix_rfl
    | health =>
      unfold fireHealth
      dsimp only
      split
      · exact List.prefix_append _ _
      · exact List.prefix_rfl
  | worker hm =>
    obtain ⟨poller, scene, -, rfl⟩ := moveWorker_eq hm
    exact List.prefix_rfl
  | turn | time | close => exact List.prefix_rfl

/-- An event that was published is never taken back. -/
theorem published_reach (hreach : Reach plan s s') : s.published <+: s'.published := by
  induction hreach with
  | refl => exact List.prefix_rfl
  | tail _ hstep ih => exact ih.trans (published_step hstep)

end Stream

/-! ## Main statement -/

/-- A buffer holds what it was passed since the last request to clear. -/
theorem Buffer.items_ofItems (items : List Item) :
    (Buffer.ofItems items).items = items.rtakeWhile fun item => item ≠ .clear := by
  induction items using List.reverseRecOn with
  | nil => rfl
  | append_singleton items item ih =>
    have hlast : ofItems (items ++ [item]) = (ofItems items).accept item := List.foldl_concat ..
    rw [hlast, List.rtakeWhile_concat]
    cases item with
    | clear => rfl
    | text | exception | dump =>
      rw [if_pos (by simp), ← ih]
      rfl

namespace Stream

theorem kept_start {c : Client} {isThreaded : Bool} {scene : Scene} {s₀ : Stream}
    (h : c.start isThreaded .empty = (.ok s₀, scene)) : Kept c.plan s₀ := by
  obtain ⟨poller, rfl, hpoller⟩ := c.start_ok h
  have hcarried : poller.carried = [] := by
    rcases hpoller with ⟨rfl, -⟩ | ⟨rfl, -⟩ <;> rfl
  have hcalls : scene.calls = 0 := by
    rcases hpoller with ⟨-, rfl⟩ | ⟨-, rfl⟩
    · rfl
    · exact c.server.connect_calls .empty
  have hcontent : scene.outlet.content = ([], []) := by
    rcases hpoller with ⟨-, rfl⟩ | ⟨-, rfl⟩
    · rfl
    · exact c.server.connect_content .empty
  have hwhole : ([] : List (Option Chunk)) ++ (poller.carried ++ []) =
      c.plan.server.brought scene.calls := by
    rw [hcarried, hcalls]; rfl
  refine ⟨⟨rfl, rfl⟩, (fun _ hp => by cases hp), ⟨[], rfl, ?_⟩, ⟨_, hwhole⟩, fun _ _ => hwhole,
    (fun _ _ ho => by cases ho), fun _ ho => by cases ho⟩
  rw [List.flatMap_nil, Converter.itemsAfter, Setting.passed_nil]
  exact hcontent

/-- In whatever order driver and worker take their steps, and whenever a close is asked for: the
display was passed the items of the successful outcomes that were delivered, which are all that the
driver took but for the one at hand, every leaf converted after those before it; the driver took them
as they were fetched; and after the outcome that closes the stream it takes no more. -/
theorem shown_eq {c : Client} {isThreaded : Bool} {scene : Scene} {s₀ s : Stream}
    {display : Display} (hdisplay : c.setting.display = some display)
    (hstart : c.start isThreaded .empty = (.ok s₀, scene)) (hr : Reach c.plan s₀ s) :
    ∃ delivered,
      s.brought = delivered ++ s.undelivered ∧ (s.isOver = true → s.undelivered = []) ∧
      s.scene.outlet.converted = delivered.flatMap Chunk.contentsIn ∧
      s.scene.outlet.shown =
        c.setting.converter.itemsAfter [] (delivered.flatMap Chunk.contentsIn) ∧
      (∀ rule : Converter.Rule, c.setting.converter = rule →
        s.scene.outlet.shown = delivered.flatMap rule.itemsOf) ∧
      (Buffer.ofItems s.scene.outlet.shown).items =
        s.scene.outlet.shown.rtakeWhile (fun item => item ≠ .clear) ∧
      s.brought <+: c.server.brought s.scene.calls ∧
      (∀ o ∈ s.outcomes.dropLast, o.isLast = false) ∧
      (s.lifecycle.closeReason.isSome = true →
        ∀ s', Reach c.plan s s' → s'.consumed = s.consumed) := by
  have h := (kept_start hstart).reach hr
  obtain ⟨delivered, hbrought, hcontent⟩ := h.shown
  obtain ⟨hconverted, hpassed⟩ := Prod.mk.inj hcontent
  have hshown : s.scene.outlet.shown =
      c.setting.converter.itemsAfter [] (delivered.flatMap Chunk.contentsIn) := by
    rw [hpassed, Setting.passed, show c.plan.setting.display = some display from hdisplay]
    rfl
  refine ⟨delivered, hbrought, fun hover => ?_, hconverted, hshown, fun rule hrule => ?_,
    Buffer.items_ofItems _, h.order, h.last, fun hreason s' hto => ?_⟩
  · unfold isOver at hover
    unfold undelivered
    split at hover <;> simp_all
  · rw [hshown, hrule, rule.itemsAfter_flatMap]
  · obtain ⟨reason, hsome⟩ := Option.isSome_iff_exists.mp hreason
    exact (h.closing_reach hsome hto).1

/-- The short feed brings one text, and a close is asked for while the next fetch is under way. -/
theorem shown_eq_brief :
    ∃ s, Reach (Feed.brief.client .always).plan
        (.ofOptions (Feed.brief.client .always).options .pending .empty) s ∧
      s.closed? = some .requested ∧ s.scene.outlet.shown = [.text "ready"] ∧ ∃ delivered,
        s.brought = delivered ++ s.undelivered ∧ (s.isOver = true → s.undelivered = []) ∧
        s.scene.outlet.shown = delivered.flatMap Converter.standard.itemsOf ∧
        (Buffer.ofItems s.scene.outlet.shown).items =
          s.scene.outlet.shown.rtakeWhile (fun item => item ≠ .clear) ∧
        s.brought <+: Feed.brief.server.brought s.scene.calls ∧
        (∀ o ∈ s.outcomes.dropLast, o.isLast = false) ∧
        (s.lifecycle.closeReason.isSome = true →
          ∀ s', Reach (Feed.brief.client .always).plan s s' → s'.consumed = s.consumed) := by
  have hstart : (Feed.brief.client .always).start true .empty =
      (.ok (.ofOptions (Feed.brief.client .always).options .pending .empty), .empty) := rfl
  have hr := Rehearsal.reach_runUntil (Feed.brief.client .always).plan 1000 100 10
    ⟨.ofOptions (Feed.brief.client .always).options .pending .empty, true, true, [(263, .close)]⟩
  refine ⟨_, hr, by decide +kernel, by decide +kernel, ?_⟩
  obtain ⟨delivered, hbrought, hover, -, -, hrule, hbuffer, horder, hlast, hcloses⟩ :=
    shown_eq rfl hstart hr
  exact ⟨delivered, hbrought, hover, hrule _ rfl, hbuffer, horder, hlast, hcloses⟩

end Stream

end RemoteConsole
