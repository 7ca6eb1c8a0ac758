import RemoteConsole.Proofs.Course.Place

/-!
# What an outcome leads to

* `Holding.consume`: an outcome that is consumed leads to the next point.
* `Receiving.deliver`: so does the delivery of what it brought.
-/

namespace RemoteConsole

variable {c : Client} {feed : Feed} {s : Stream} {i : Nat}

/-! ## Consuming an outcome -/

theorem Feed.ending?_ok {p : Backoff.Policy} {chunk : Option Chunk}
    (h : feed.answer i = .ok chunk) : feed.ending? p i = Lifecycle.reasonOf chunk := by
  cases chunk with
  | none => rw [ending?, h]; rfl
  | some c => exact ending?_chunk h

/-- The failure after a streak within the retries is one too many if it is the last. -/
theorem Feed.exhausted_iff {p : Backoff.Policy} (hretries : p.maxRetries.toNat < 0xffffffff)
    (hopen : ∀ j < i, feed.ending? p j = none) :
    UInt32.ofNat (feed.streak i) ≠ Lifecycle.lastFailure ∧
      UInt32.ofNat (feed.streak i) + 1 = UInt32.ofNat (feed.streak i + 1) ∧
      (p.exhausted (UInt32.ofNat (feed.streak i) + 1) = true ↔
        feed.streak i + 1 = p.maxRetries.toNat + 1) := by
  have hle := Feed.streak_le hopen
  have hsize : (UInt32.ofNat (feed.streak i)).toNat = feed.streak i := by
    rw [UInt32.toNat_ofNat']; omega
  have hsucc : (UInt32.ofNat (feed.streak i) + 1).toNat = feed.streak i + 1 := by
    have hone : (1 : UInt32).toNat = 1 := rfl
    rw [UInt32.toNat_add, hsize, hone]; omega
  refine ⟨fun he => ?_, ?_, ?_⟩
  · have hlast : Lifecycle.lastFailure.toNat = 0xffffffff := rfl
    rw [← he, hsize] at hlast
    omega
  · apply UInt32.toNat_inj.mp
    rw [hsucc, UInt32.toNat_ofNat']; omega
  · unfold Backoff.Policy.exhausted
    rw [decide_eq_true_iff, UInt32.lt_iff_toNat_lt, hsucc]
    omega

/-- The state of a stream that has an outcome in its hands. -/
structure Holding (c : Client) (feed : Feed) (i : Nat) (s : Stream) : Prop where
  isOpen : ∀ j < i, feed.ending? c.options.backoff j = none
  bearing : s.lifecycle.bearing = feed.bearing c.options.backoff i
  now : s.now = feed.arrival c.options.backoff i
  isClosed : s.isClosed = false
  closeWanted : s.closeWanted = false
  resting : Poller.Resting c.server feed (i + 1) s.poller s.scene
  record : s.scene.record = c.recordFetched feed i
  milestones : s.milestones = feed.log c.options.backoff i

namespace Holding

variable (h : Holding c feed i s)
include h

theorem phase : s.lifecycle.phase = .polling := congrArg (·.phase) h.bearing

theorem closeReason : s.lifecycle.closeReason = none := congrArg (·.closeReason) h.bearing

/-- An outcome after which there is a delivery. -/
theorem received {l : Lifecycle} (target : Phase)
    (hreceive : s.lifecycle.receive (feed.answer i) s.now = (l, .ok (.deliver (feed.chunkAt i))))
    (hdelivered : feed.isDelivered c.options.backoff i = true) (htarget : feed.phaseAt i = target)
    (hphase : l.phase = target)
    (hreason : l.closeReason = feed.ending? c.options.backoff i)
    (hmilestones : l.bearing.milestones = [.phaseChanged .polling target])
    (hon : feed.ending? c.options.backoff i = none →
      l.bearing.drained = { feed.bearing c.options.backoff (i + 1) with phase := .delivering }) :
    At c feed (.received i) (s.consume (feed.answer i)) := by
  rw [Stream.consume_ok hreceive]
  refine ⟨.received ⟨rfl, h.isOpen, h.now, hdelivered, hphase.trans htarget.symm, hreason, rfl, hon,
    h.isClosed, h.resting⟩, ?_, h.closeWanted⟩
  rw [Stream.trace_proceed, hmilestones]
  show Trace.mk s.scene.record (s.milestones ++ [(s.now, .phaseChanged .polling target)]) none = _
  rw [h.record, h.milestones, h.now, ← htarget]
  rfl

/-- A chunk, or the end of the console. -/
theorem consume_chunk (hc : c.Served feed) {chunk : Option Chunk}
    (ha : feed.answer i = .ok chunk) :
    At c feed (.received i) (s.consume (feed.answer i)) := by
  have hbearing := s.lifecycle.bearing_receiveChunk chunk h.phase
  have hreason : (s.lifecycle.receiveChunk chunk).1.closeReason =
      feed.ending? c.options.backoff i := by
    rw [Feed.ending?_ok ha, show (s.lifecycle.receiveChunk chunk).1.closeReason = _ from
      congrArg (·.closeReason) hbearing, h.closeReason]
    exact Option.or_none
  have hbackoff : s.lifecycle.backoff = ⟨c.options.backoff, _⟩ := congrArg (·.backoff) h.bearing
  refine h.received .delivering ?_ (Feed.isDelivered_ok ha) (Feed.phaseAt_ok ha)
    (congrArg (·.phase) hbearing) hreason ?_ ?_
  · rw [Feed.chunkAt_ok ha, ha]
    exact s.lifecycle.receive_chunk chunk s.now h.phase
  · rw [hbearing, h.bearing]
    rfl
  · intro hnone
    have hreason' : (s.lifecycle.receiveChunk chunk).1.bearing.closeReason = none :=
      hreason.trans hnone
    rw [hbearing] at hreason' ⊢
    unfold Bearing.drained Feed.bearing
    simp only at hreason' ⊢
    rw [hreason', hbackoff, Feed.streak_ok ha, hc.ordered.stepAfter_zero]
    rfl

/-- An error that closes the stream. -/
theorem consume_last {e : FetchError} {reason : CloseReason} {l : Lifecycle}
    (ha : feed.answer i = .error e) (hending : feed.ending? c.options.backoff i = some reason)
    (hreceive : s.lifecycle.receive (.error e) s.now =
      ({ l with closeReason := some reason }, .ok (.deliver none)))
    (hphase : l.bearing.phase = .backoff)
    (hmilestones : l.bearing.milestones = [.phaseChanged .polling .backoff]) :
    At c feed (.received i) (s.consume (feed.answer i)) := by
  refine h.received (l := { l with closeReason := some reason }) .backoff ?_
    (Feed.isDelivered_of_ending hending) (Feed.phaseAt_error ha) hphase hending.symm hmilestones ?_
  · rw [Feed.chunkAt_error ha, ha]
    exact hreceive
  · intro hnone
    cases hnone.symm.trans hending

/-- An error that is retried. -/
theorem consume_retry (hc : c.Served feed) {e : FetchError} (ha : feed.answer i = .error e)
    (ht : e.isTerminal = false)
    (hlast : (s.lifecycle.enter .backoff).failures ≠ Lifecycle.lastFailure)
    (hexhausted : s.lifecycle.failed.backoff.policy.exhausted s.lifecycle.failed.failures = false)
    (hsucc : UInt32.ofNat (feed.streak i) + 1 = UInt32.ofNat (feed.streak i + 1))
    (hnone : feed.ending? c.options.backoff i = none) :
    At c feed (.booked (i + 1)) (s.consume (feed.answer i)) := by
  have hfailed := s.lifecycle.bearing_failed h.phase
  have hfailures : s.lifecycle.failures = UInt32.ofNat (feed.streak i) :=
    congrArg (·.failures) h.bearing
  have hbackoff : s.lifecycle.failed.backoff =
      ⟨c.options.backoff, c.options.backoff.stepAfter (feed.streak i)⟩ :=
    (s.lifecycle.failed_policy h.phase).trans (congrArg (·.backoff) h.bearing)
  have hnext : s.lifecycle.failed.backoff.nextDelay =
      .ok (c.options.backoff.wait (feed.streak i + 1),
        ⟨c.options.backoff, c.options.backoff.stepAfter (feed.streak i + 1)⟩) := by
    rw [hbackoff]
    exact hc.ordered.controller_nextDelay (feed.streak i)
  have hpause := Feed.pause_error (p := c.options.backoff) ha ht
  have hphase : s.lifecycle.failed.phase ≠ .polling := by
    rw [show s.lifecycle.failed.phase = .backoff from congrArg (·.phase) hfailed]; decide
  have hretry := s.lifecycle.failed.bearing_retry e s.now hphase hnext
  have hreceive : s.lifecycle.receive (.error e) s.now =
      ((s.lifecycle.failed.retry e s.now).1,
        .ok (.fetch (c.options.backoff.wait (feed.streak i + 1)))) := by
    rw [s.lifecycle.receive_error e s.now h.phase,
      s.lifecycle.receiveError_retry ht hlast hexhausted]
    exact Prod.ext rfl (s.lifecycle.failed.retry_command hnext)
  rw [hfailed, h.bearing, hfailures, hbackoff] at hretry
  rw [ha, Stream.consume_ok hreceive]
  refine ⟨.ordered rfl (Feed.open_succ h.isOpen hnone) ?_ ?_ h.isClosed h.resting, ?_,
    h.closeWanted⟩
  · rw [Feed.beginning_succ, hpause]
    exact congrArg (· + _) h.now
  · show (s.lifecycle.failed.retry e s.now).1.drained.bearing = _
    rw [Lifecycle.bearing_drained, hretry, hsucc]
    unfold Feed.bearing
    rw [Feed.streak_error ha ht]
    rfl
  · rw [Stream.trace_proceed, hretry]
    show _ = Trace.mk (c.recordBefore feed (i + 1)) (feed.log c.options.backoff (i + 1)) none
    rw [c.recordBefore_succ, Feed.log_succ, ← h.milestones, ← h.record]
    rw [Feed.chunkAt_error ha, Feed.passage_error ha, hpause, ← h.now]
    show Trace.mk s.scene.record _ _ = Trace.mk { s.scene.record with
      converted := s.scene.record.converted ++ []
      shown := s.scene.record.shown ++ c.setting.passed [] } _ _
    rw [Setting.passed_nil, List.append_nil, List.append_nil]
    rfl

/-- Every outcome leads to the next point. -/
theorem consume (hc : c.Served feed) :
    At c feed
      (if feed.isDelivered c.options.backoff i then .received i else .booked (i + 1))
      (s.consume (feed.answer i)) := by
  cases ha : feed.answer i with
  | ok chunk =>
    rw [if_pos (Feed.isDelivered_ok ha), ← ha]
    exact h.consume_chunk hc ha
  | error e =>
    have henter : (s.lifecycle.enter .backoff).bearing = s.lifecycle.bearing.enter .backoff :=
      s.lifecycle.bearing_enter (by rw [h.phase]; decide)
    have hreceive := s.lifecycle.receive_error e s.now h.phase
    rw [Feed.isDelivered_error ha, ← ha]
    cases ht : e.isTerminal with
    | true =>
      have hending := Feed.ending?_terminal (p := c.options.backoff) ha ht
      rw [hending]
      refine h.consume_last ha hending (hreceive.trans (s.lifecycle.receiveError_terminal ht)) ?_ ?_
      · rw [henter]; rfl
      · rw [henter, h.bearing]; rfl
    | false =>
      have hfailed := s.lifecycle.bearing_failed h.phase
      have hfailures : s.lifecycle.failures = UInt32.ofNat (feed.streak i) :=
        congrArg (·.failures) h.bearing
      have hcount : s.lifecycle.failed.failures = UInt32.ofNat (feed.streak i) + 1 := by
        rw [← hfailures]; exact congrArg (·.failures) hfailed
      have hpolicy : s.lifecycle.failed.backoff.policy = c.options.backoff := by
        rw [s.lifecycle.failed_policy h.phase]
        exact congrArg (·.backoff.policy) h.bearing
      obtain ⟨hfull, hsucc, hiff⟩ := Feed.exhausted_iff hc.retries_lt h.isOpen
      have hlast : (s.lifecycle.enter .backoff).failures ≠ Lifecycle.lastFailure := by
        rw [show (s.lifecycle.enter .backoff).failures = s.lifecycle.failures from
          congrArg (·.failures) henter, hfailures]
        exact hfull
      have hending := Feed.ending?_error (p := c.options.backoff) ha ht
      by_cases hover : feed.streak i + 1 = c.options.backoff.maxRetries.toNat + 1
      · rw [if_pos hover] at hending
        rw [hending]
        have hexhausted : s.lifecycle.failed.backoff.policy.exhausted s.lifecycle.failed.failures =
            true := by rw [hcount, hpolicy]; exact hiff.mpr hover
        refine h.consume_last ha hending
          (hreceive.trans (s.lifecycle.receiveError_exhausted ht hlast hexhausted)) ?_ ?_
        · rw [hfailed]; rfl
        · rw [hfailed, h.bearing]; rfl
      · rw [if_neg hover] at hending
        rw [hending]
        have hexhausted : s.lifecycle.failed.backoff.policy.exhausted s.lifecycle.failed.failures =
            false := by
          rw [hcount, hpolicy]
          exact Bool.eq_false_iff.mpr fun htrue => hover (hiff.mp htrue)
        exact h.consume_retry hc ha ht hlast hexhausted hsucc hending

end Holding

/-! ## Delivering what it brought -/

theorem Feed.reasonOf_chunkAt {p : Backoff.Policy} (h : feed.isDelivered p i = true) :
    Lifecycle.reasonOf (feed.chunkAt i) = none ↔ feed.ending? p i = none := by
  cases ha : feed.answer i with
  | ok chunk => rw [chunkAt_ok ha, ending?_ok ha]
  | error e =>
    rw [isDelivered_error ha] at h
    obtain ⟨reason, hreason⟩ := Option.isSome_iff_exists.mp h
    rw [chunkAt_error ha, hreason]
    exact ⟨(fun hnone => by cases hnone), fun hnone => by cases hnone⟩

/-- An outcome that is delivered and leaves the stream open is a success. -/
theorem Feed.answer_of_open {p : Backoff.Policy} (h : feed.isDelivered p i = true)
    (hnone : feed.ending? p i = none) : ∃ chunk, feed.answer i = .ok chunk := by
  cases ha : feed.answer i with
  | ok chunk => exact ⟨chunk, rfl⟩
  | error e =>
    rw [isDelivered_error ha, hnone] at h
    cases h

theorem Setting.filter_heard_farewell (s : Setting) (notice : Option Bool) (isClosed : Bool) :
    ((s.heard (Delivery.farewell s notice isClosed)).filter fun e => !e.isConnected) =
      s.heard (Delivery.farewell s notice isClosed) := by
  unfold heard Delivery.farewell
  split
  · cases notice with
    | none => cases isClosed <;> rfl
    | some clean => cases clean <;> cases isClosed <;> rfl
  · rfl

/-- Every delivery leads to the next point. -/
theorem Receiving.deliver (hc : c.Served feed) (h : Receiving c feed i s)
    (htrace : s.trace = (Point.received i).trace c feed) (hcw : s.closeWanted = false) :
    At c feed
      (if (feed.ending? c.options.backoff i).isSome then .leaving i else .booked (i + 1))
      (s.deliver c.plan (feed.chunkAt i)) := by
  obtain ⟨-, hopen, htime, hdelivered, hphase, hreason, hmilestones, hon, hclosed, hr⟩ := h
  have hrecord : s.scene.record = c.recordFetched feed i := congrArg (·.record) htrace
  have hevents : s.milestones = feed.logReceived c.options.backoff i := congrArg (·.events) htrace
  have hcontent := Delivery.process_content c.setting (feed.chunkAt i) s.delivery
  have hiff := Feed.reasonOf_chunkAt hdelivered
  cases hending : feed.ending? c.options.backoff i with
  | none =>
    obtain ⟨chunk, ha⟩ := Feed.answer_of_open hdelivered hending
    obtain ⟨d, hprocess, hisClosed, hjournal⟩ :=
      Delivery.process_continue (s := c.setting) (hiff.mpr hending) s.delivery
    rw [hprocess] at hcontent
    obtain ⟨hconverted, hshown⟩ := Prod.mk.inj hcontent
    have hbearing : (s.afterDelivery d).lifecycle.bearing = s.lifecycle.bearing := rfl
    have hdelivering : (s.afterDelivery d).lifecycle.phase = .delivering := by
      exact hphase.trans (Feed.phaseAt_ok ha)
    have henter : ((s.afterDelivery d).lifecycle.enterPolling s.now).bearing =
        s.lifecycle.bearing.enter .polling := by
      rw [Lifecycle.bearing_enterPolling, Lifecycle.bearing_enter _ (by rw [hdelivering]; decide),
        hbearing]
    rw [Stream.deliver_flow c.plan hprocess, Lifecycle.delivered_continue _ hdelivering]
    refine ⟨.ordered rfl (Feed.open_succ hopen hending) ?_ ?_ (hisClosed.trans hclosed)
      (hr.congr rfl rfl), ?_, hcw⟩
    · rw [Feed.beginning_succ, Feed.pause_ok ha]
      exact htime
    · show ((s.afterDelivery d).lifecycle.enterPolling s.now).drained.bearing = _
      rw [Lifecycle.bearing_drained, henter, hon hending]
      rfl
    · rw [Stream.trace_proceed, henter, hon hending]
      show _ = Trace.mk (c.recordBefore feed (i + 1)) (feed.log c.options.backoff (i + 1)) none
      have hlog : s.milestones ++ [(s.now, .phaseChanged .delivering .polling)] =
          feed.log c.options.backoff (i + 1) := by
        rw [hevents, Feed.log_succ, Feed.passage_ok ha, htime, Feed.logReceived,
          Feed.phaseAt_ok ha, List.append_assoc]
        rfl
      have hafter : (s.afterDelivery d).scene.record = c.recordBefore feed (i + 1) := by
        rw [c.recordBefore_succ, ← hrecord]
        unfold Scene.record
        show Record.mk s.scene.begun d.outlet.converted d.outlet.shown
          (d.outlet.journal.filter _) = _
        rw [hconverted, hshown, hjournal]
        rfl
      rw [hafter, ← hlog]
      rfl
  | some reason =>
    obtain ⟨d, hprocess, hjournal⟩ := Delivery.process_stop hc.hooks
      (fun hnone => by cases (hiff.mp hnone).symm.trans hending) s.delivery
    rw [hprocess] at hcontent
    obtain ⟨hconverted, hshown⟩ := Prod.mk.inj hcontent
    have hsome : (s.afterDelivery d).lifecycle.closeReason = some reason := hreason.trans hending
    have hphases : (s.afterDelivery d).lifecycle.phase = .delivering ∨
        (s.afterDelivery d).lifecycle.phase = .backoff ∨
        (s.afterDelivery d).lifecycle.phase = .polling := by
      show s.lifecycle.phase = _ ∨ s.lifecycle.phase = _ ∨ _
      rw [hphase]
      cases ha : feed.answer i with
      | ok => exact .inl (Feed.phaseAt_ok ha)
      | error => exact .inr (.inl (Feed.phaseAt_error ha))
    have hne : (s.afterDelivery d).lifecycle.phase ≠ .closed := by
      rcases hphases with h | h | h <;> rw [h] <;> decide
    have hbearing := Lifecycle.bearing_close _ hne hsome
    rw [Stream.deliver_flow c.plan hprocess, Lifecycle.delivered_stop _ hphases]
    refine ⟨.leaving (.inl ?_) hopen htime hending (hr.congr rfl rfl), ?_, hcw⟩
    · exact congrArg Stage.executing (Lifecycle.close_command _ hsome)
    · rw [Stream.trace_proceed, hbearing]
      show _ = Trace.mk (c.recordClosed feed i) (feed.logClosed c.options.backoff i) none
      have hlog : s.milestones ++
          [(s.now, .phaseChanged (feed.phaseAt i) .closed), (s.now, .closed reason)] =
          feed.logClosed c.options.backoff i := by
        rw [hevents, Feed.logClosed, hending, htime]
        rfl
      have hafter : (s.afterDelivery d).scene.record = c.recordClosed feed i := by
        unfold Client.recordClosed
        rw [c.recordBefore_succ, ← hrecord]
        unfold Scene.record
        show Record.mk s.scene.begun d.outlet.converted d.outlet.shown
          (d.outlet.journal.filter _) = _
        rw [hconverted, hshown, hjournal, List.filter_append, Setting.filter_heard_farewell]
        show Record.mk _ _ _ (_ ++ c.setting.heard (Delivery.farewell c.setting _ s.isClosed)) = _
        rw [hclosed]
        rfl
      rw [hafter, ← hlog, ← hphase]
      show Trace.mk _ (s.milestones ++
        (s.lifecycle.bearing.milestones ++ [_] ++ [_]).map _) none = _
      rw [hmilestones]
      rfl

end RemoteConsole
