import RemoteConsole.Proofs.Chunk.Encodings
import RemoteConsole.Proofs.Lifecycle.Setback
import RemoteConsole.Proofs.Rpc.Answer
import RemoteConsole.Proofs.Stream.Parts

/-!
# What an answer does to a stream

* `Stream.settle`: the stream takes an outcome and makes the delivery that it asks for.
* `Stream.IsEnding`: the stream is closed for a reason, and about to leave.
* `Stream.Settled`: all that an outcome can lead to, one case for each (`settled`), unless a hook
  panics (`settle_returns`).
* `Stream.answer_decides`: which of them it is can be read off the status and the body of the
  answer.
-/

namespace RemoteConsole

namespace Stream

/-- The stream takes an outcome, and carries out the delivery if it asks for one. -/
def settle (plan : Plan) (s : Stream) (outcome : Outcome) : Stream :=
  match (s.consume outcome).stage with
  | .executing (.deliver chunk) => (s.consume outcome).deliver plan chunk
  | _ => s.consume outcome

/-- The stream is closed for the reason, and about to leave. -/
structure IsEnding (reason : CloseReason) (s : Stream) : Prop where
  stage : s.stage = .executing (.close reason)
  phase : s.lifecycle.phase = .closed
  reason : s.lifecycle.closeReason = some reason

/-- The stream polls again, with a fetch after the delay. -/
structure IsPolling (delay : Nat) (s : Stream) : Prop where
  stage : s.stage = .executing (.fetch delay)
  phase : s.lifecycle.phase = .polling

/-- All that an outcome can lead to: the end of the console, a notice, a chunk without one, the end
of the session, one failure too many, and another fetch. -/
inductive Settled (s s' : Stream) : Outcome → Prop
  | ended (hfailures : s'.lifecycle.failures = 0) (h : s'.IsEnding .serverClosed) :
      Settled s s' (.ok none)
  | notified {c : Chunk} {clean : Bool} (hnotice : c.notice? = some clean)
      (hfailures : s'.lifecycle.failures = 0) (h : s'.IsEnding (.shutdown clean)) :
      Settled s s' (.ok (some c))
  | passed {c : Chunk} (hnotice : c.notice? = none) (hfailures : s'.lifecycle.failures = 0)
      (h : s'.IsPolling 0) : Settled s s' (.ok (some c))
  | revoked {e : FetchError} (he : e.isTerminal = true)
      (hfailures : s'.lifecycle.failures = s.lifecycle.failures)
      (h : s'.IsEnding (.sessionInvalid e)) : Settled s s' (.error e)
  | exhausted {e : FetchError} (he : e.isTerminal = false)
      (hmore : s.lifecycle.backoff.policy.exhausted (s.lifecycle.failures + 1) = true)
      (hfailures : s'.lifecycle.failures = s.lifecycle.failures + 1)
      (h : s'.IsEnding (.retriesExhausted e)) : Settled s s' (.error e)
  | retried {e : FetchError} (he : e.isTerminal = false)
      (hmore : s.lifecycle.backoff.policy.exhausted (s.lifecycle.failures + 1) = false)
      (hfailures : s'.lifecycle.failures = s.lifecycle.failures + 1) {delay : Nat}
      (h : s'.IsPolling delay) : Settled s s' (.error e)

variable {plan : Plan} {s : Stream}

theorem settle_deliver {o : Outcome} {l : Lifecycle} {chunk : Option Chunk}
    (h : s.lifecycle.receive o s.now = (l, .ok (.deliver chunk))) :
    s.settle plan o = ((s.taking o).proceed (l, .deliver chunk)).deliver plan chunk := by
  unfold settle
  rw [consume_ok h]
  rfl

theorem settle_fetch {o : Outcome} {l : Lifecycle} {delay : Nat}
    (h : s.lifecycle.receive o s.now = (l, .ok (.fetch delay))) :
    s.settle plan o = (s.taking o).proceed (l, .fetch delay) := by
  unfold settle
  rw [consume_ok h]
  rfl

/-- A delivery that stops the stream closes it for the reason that is there, unless it breaks
off. -/
theorem deliver_ends {reason : CloseReason}
    (hphase : s.lifecycle.phase = .delivering ∨ s.lifecycle.phase = .backoff)
    (hreason : s.lifecycle.closeReason = some reason) {chunk : Option Chunk}
    (hstop : Lifecycle.reasonOf chunk ≠ none)
    (hreturns : (s.deliver plan chunk).stage ≠ .crashed) :
    (s.deliver plan chunk).lifecycle.failures = s.lifecycle.failures ∧
      (s.deliver plan chunk).IsEnding reason := by
  have hcontinue := Delivery.process_continue_iff plan.setting chunk s.delivery
  generalize hprocess : Delivery.process plan.setting chunk s.delivery = result at hcontinue
  obtain ⟨d, ending⟩ := result
  cases ending with
  | panicked => exact absurd (congrArg (·.stage) (deliver_panicked hprocess)) hreturns
  | flow flow =>
    cases flow with
    | «continue» => exact absurd (hcontinue.mp rfl) hstop
    | stop =>
      rw [deliver_flow plan hprocess]
      generalize hl : (s.afterDelivery d).lifecycle = l
      have hphase' : l.phase = .delivering ∨ l.phase = .backoff := by rw [← hl]; exact hphase
      have hreason' : l.closeReason = some reason := by rw [← hl]; exact hreason
      have hopen : l.phase ≠ .closed := by rcases hphase' with h | h <;> rw [h] <;> decide
      rw [l.delivered_stop (hphase'.imp_right .inl), l.close_eq hopen, hreason']
      exact ⟨congrArg (·.failures) hl.symm, rfl, rfl, rfl⟩

/-- As long as the hooks return, no delivery breaks off. -/
theorem deliver_returns (hhooks : plan.setting.HooksReturn) (s : Stream) (chunk : Option Chunk) :
    (s.deliver plan chunk).stage ≠ .crashed := by
  obtain ⟨d, flow, hprocess⟩ := Delivery.process_returns hhooks chunk s.delivery
  rw [deliver_flow plan hprocess]
  nofun

/-- A chunk without a notice is passed on, and the next fetch begins at once. -/
theorem deliver_passes (hphase : s.lifecycle.phase = .delivering) {c : Chunk}
    (hnotice : c.notice? = none) :
    (s.deliver plan (some c)).lifecycle.failures = s.lifecycle.failures ∧
      (s.deliver plan (some c)).IsPolling 0 := by
  have hnone : Lifecycle.reasonOf (some c) = none := Option.map_eq_none_iff.mpr hnotice
  obtain ⟨d, hprocess, -⟩ := Delivery.process_continue (s := plan.setting) hnone s.delivery
  rw [deliver_flow plan hprocess]
  generalize hl : (s.afterDelivery d).lifecycle = l
  have hphase' : l.phase = .delivering := by rw [← hl]; exact hphase
  rw [l.delivered_continue hphase', l.enterPolling_eq (by rw [hphase']; decide)]
  exact ⟨congrArg (·.failures) hl.symm, rfl, rfl⟩

/-- Whatever becomes of a delivery, the display is passed the items of the chunk. -/
theorem deliver_shown (plan : Plan) (s : Stream) (chunk : Option Chunk) :
    (s.deliver plan chunk).scene.outlet.shown = s.scene.outlet.shown ++ plan.setting.passed
      (plan.setting.converter.itemsAfter s.scene.outlet.converted (Chunk.contentsIn chunk)) := by
  have hshown := Delivery.process_shown plan.setting chunk s.delivery
  generalize hprocess : Delivery.process plan.setting chunk s.delivery = result at hshown
  obtain ⟨d, ending⟩ := result
  cases ending with
  | flow => rw [deliver_flow plan hprocess]; exact hshown
  | panicked => rw [deliver_panicked hprocess]; exact hshown

/-- An outcome for which the stream stops closes it for the reason that the lifecycle gives, unless
the delivery breaks off. -/
theorem settle_ends {o : Outcome} {l : Lifecycle} {chunk : Option Chunk} {reason : CloseReason}
    (h : s.lifecycle.receive o s.now = (l, .ok (.deliver chunk)))
    (hreturns : (s.settle plan o).stage ≠ .crashed)
    (hphase : l.phase = .delivering ∨ l.phase = .backoff) (hreason : l.closeReason = some reason)
    (hstop : Lifecycle.reasonOf chunk ≠ none) :
    (s.settle plan o).lifecycle.failures = l.failures ∧ (s.settle plan o).IsEnding reason := by
  rw [settle_deliver h] at hreturns ⊢
  exact deliver_ends hphase hreason hstop hreturns

theorem settle_passes {o : Outcome} {l : Lifecycle} {c : Chunk}
    (h : s.lifecycle.receive o s.now = (l, .ok (.deliver (some c))))
    (hphase : l.phase = .delivering) (hnotice : c.notice? = none) :
    (s.settle plan o).lifecycle.failures = l.failures ∧ (s.settle plan o).IsPolling 0 := by
  rw [settle_deliver h]
  exact deliver_passes hphase hnotice

/-- As long as the hooks return, no outcome makes the driver break off. -/
theorem settle_returns (hhooks : plan.setting.HooksReturn)
    (hpolicy : s.lifecycle.backoff.policy.IsOrdered)
    (hcount : s.lifecycle.failures ≠ Lifecycle.lastFailure) (o : Outcome) :
    (s.settle plan o).stage ≠ .crashed := by
  rcases s.consume_cases o with ⟨l, command, -, heq⟩ | ⟨l, fault, hr, -⟩
  · unfold settle
    rw [heq]
    cases command with
    | deliver chunk => exact deliver_returns hhooks _ chunk
    | fetch | close | wait => nofun
  · exact absurd rfl (hr.ne_broken hpolicy (fun _ => hcount) fault)

/-- While the stream waits for an outcome, each outcome leads to one of the cases, unless its
delivery breaks off. -/
theorem settled (hphase : s.lifecycle.phase = .polling)
    (hpolicy : s.lifecycle.backoff.policy.IsOrdered)
    (hcount : s.lifecycle.failures ≠ Lifecycle.lastFailure) {o : Outcome}
    (hreturns : (s.settle plan o).stage ≠ .crashed) : Settled s (s.settle plan o) o := by
  cases o with
  | ok chunk =>
    have hreceive := s.lifecycle.receive_chunk chunk s.now hphase
    rw [s.lifecycle.receiveChunk_eq chunk hphase] at hreceive
    cases chunk with
    | none =>
      obtain ⟨hfailures, hending⟩ := settle_ends hreceive hreturns (.inl rfl) rfl nofun
      exact .ended hfailures hending
    | some c =>
      cases hnotice : c.notice? with
      | none =>
        obtain ⟨hfailures, hpolling⟩ := settle_passes hreceive rfl hnotice
        exact .passed hnotice hfailures hpolling
      | some clean =>
        have hreason : Lifecycle.reasonOf (some c) = some (.shutdown clean) :=
          Option.map_eq_some_iff.mpr ⟨clean, hnotice, rfl⟩
        rw [hreason] at hreceive
        obtain ⟨hfailures, hending⟩ := settle_ends hreceive hreturns (.inl rfl) rfl
          (by rw [hreason]; nofun)
        exact .notified hnotice hfailures hending
  | error e =>
    cases he : e.isTerminal with
    | true =>
      have hreceive := Lifecycle.receive_terminal hphase he s.now
      obtain ⟨hfailures, hending⟩ := settle_ends hreceive hreturns (.inr rfl) rfl nofun
      exact .revoked he hfailures hending
    | false =>
      cases hmore : s.lifecycle.backoff.policy.exhausted (s.lifecycle.failures + 1) with
      | true =>
        have hreceive := Lifecycle.receive_exhausted hphase he hcount hmore s.now
        obtain ⟨hfailures, hending⟩ := settle_ends hreceive hreturns (.inr rfl) rfl nofun
        exact .exhausted he hmore hfailures hending
      | false =>
        obtain ⟨delay, backoff, hnext⟩ := Backoff.Controller.nextDelay_ok hpolicy
        rw [settle_fetch (Lifecycle.receive_retried hphase he hcount hmore hnext s.now)]
        exact .retried he hmore rfl ⟨rfl, rfl⟩

/-- A stream that waits for an outcome shows what is in the chunk that it is brought. -/
theorem settle_shown (plan : Plan) (hphase : s.lifecycle.phase = .polling)
    (chunk : Option Chunk) :
    (s.settle plan (.ok chunk)).scene.outlet.shown = s.scene.outlet.shown ++ plan.setting.passed
      (plan.setting.converter.itemsAfter s.scene.outlet.converted (Chunk.contentsIn chunk)) := by
  rw [settle_deliver (s.lifecycle.receive_chunk chunk s.now hphase)]
  exact deliver_shown plan _ chunk

/-! ## Which of them it is -/

namespace Settled

variable {s' : Stream} {o : Outcome}

/-- The stage and the count of failures tell the cases apart. -/
theorem invalid_iff (h : Settled s s' o) :
    (∃ e, s'.stage = .executing (.close (.sessionInvalid e))) ↔
      ∃ e, o = .error e ∧ e.isTerminal = true := by
  cases h with
  | revoked he _ h => exact iff_of_true ⟨_, h.stage⟩ ⟨_, rfl, he⟩
  | ended _ h | notified _ _ h | passed _ _ h => simp [h.stage]
  | exhausted he _ _ h | retried he _ _ h => simp [h.stage, he]

theorem serverClosed_iff (h : Settled s s' o) :
    s'.stage = .executing (.close .serverClosed) ↔ o = .ok none := by
  cases h with
  | ended _ h => exact iff_of_true h.stage rfl
  | notified _ _ h | passed _ _ h | revoked _ _ h | exhausted _ _ _ h | retried _ _ _ h =>
    simp [h.stage]

theorem shutdown_iff (h : Settled s s' o) (clean : Bool) :
    s'.stage = .executing (.close (.shutdown clean)) ↔
      ∃ c, o = .ok (some c) ∧ c.notice? = some clean := by
  cases h with
  | notified hnotice _ h | passed hnotice _ h => simp [h.stage, hnotice]
  | ended _ h | revoked _ _ h | exhausted _ _ _ h | retried _ _ _ h => simp [h.stage]

theorem counted_iff (h : Settled s s' o) (hcount : s.lifecycle.failures ≠ Lifecycle.lastFailure) :
    s'.lifecycle.failures = s.lifecycle.failures + 1 ↔
      ∃ e, o = .error e ∧ e.isTerminal = false := by
  have hsucc := Lifecycle.toNat_succ hcount
  cases h with
  | ended hfailures | notified _ hfailures | passed _ hfailures =>
    refine iff_of_false (fun he => ?_) nofun
    rw [← he, hfailures] at hsucc
    cases hsucc
  | revoked he hfailures =>
    refine iff_of_false (fun heq => ?_) (by simp [he])
    rw [← heq, hfailures] at hsucc
    omega
  | exhausted he _ hfailures | retried he _ hfailures =>
    exact iff_of_true hfailures ⟨_, rfl, he⟩

theorem exhausted_iff (h : Settled s s' o) :
    (∃ e, s'.stage = .executing (.close (.retriesExhausted e))) ↔
      (∃ e, o = .error e ∧ e.isTerminal = false) ∧
        s.lifecycle.backoff.policy.exhausted (s.lifecycle.failures + 1) = true := by
  cases h with
  | exhausted he hmore _ h => exact iff_of_true ⟨_, h.stage⟩ ⟨⟨_, rfl, he⟩, hmore⟩
  | ended _ h | notified _ _ h | passed _ _ h => simp [h.stage]
  | revoked he _ h => simp [h.stage, he]
  | retried _ hmore _ h => simp [h.stage, hmore]

theorem retried_iff (h : Settled s s' o) (hcount : s.lifecycle.failures ≠ Lifecycle.lastFailure) :
    (∃ delay, s'.IsPolling delay) ∧ s'.lifecycle.failures = s.lifecycle.failures + 1 ↔
      (∃ e, o = .error e ∧ e.isTerminal = false) ∧
        s.lifecycle.backoff.policy.exhausted (s.lifecycle.failures + 1) = false := by
  rw [h.counted_iff hcount, and_comm]
  refine and_congr_right fun hsetback => ?_
  cases h with
  | retried _ hmore _ h => exact iff_of_true ⟨_, h⟩ hmore
  | exhausted _ hmore _ h =>
    refine iff_of_false ?_ (by rw [hmore]; nofun)
    rintro ⟨delay, hpolling⟩
    cases h.stage.symm.trans hpolling.stage
  | revoked he =>
    obtain ⟨e', hsame, hnot⟩ := hsetback
    cases hsame
    rw [he] at hnot
    cases hnot
  | ended | notified | passed => obtain ⟨e', hsame, -⟩ := hsetback; cases hsame

theorem passed_iff (h : Settled s s' o) (hcount : s.lifecycle.failures ≠ Lifecycle.lastFailure) :
    s'.IsPolling 0 ∧ s'.lifecycle.failures = 0 ↔
      ∃ c, o = .ok (some c) ∧ c.notice? = none := by
  cases h with
  | passed hnotice hfailures h => exact iff_of_true ⟨h, hfailures⟩ ⟨_, rfl, hnotice⟩
  | ended _ h | revoked _ _ h | exhausted _ _ _ h =>
    refine iff_of_false (fun hpassed => ?_) nofun
    cases h.stage.symm.trans hpassed.1.stage
  | notified hnotice _ h =>
    refine iff_of_false (fun hpassed => ?_) (by simp [hnotice])
    cases h.stage.symm.trans hpassed.1.stage
  | retried _ _ hfailures =>
    have hsucc := Lifecycle.toNat_succ hcount
    refine iff_of_false (fun hpassed => ?_) nofun
    rw [← hfailures, hpassed.2] at hsucc
    cases hsucc

/-- A stream that is about to leave is closed for the reason that it leaves with. -/
theorem isEnding (h : Settled s s' o) {reason : CloseReason}
    (hstage : s'.stage = .executing (.close reason)) : s'.IsEnding reason := by
  cases h with
  | ended _ h | notified _ _ h | revoked _ _ h | exhausted _ _ _ h =>
    cases h.stage.symm.trans hstage
    exact h
  | passed _ _ h | retried _ _ _ h => cases h.stage.symm.trans hstage

end Settled

/-! ## Answers -/

section Outcomes

variable {r : Except FetchError Json}

theorem map_ofJson_error {p : FetchError → Prop} :
    (∃ e, r.map Chunk.ofJson = .error e ∧ p e) ↔ ∃ e, r = .error e ∧ p e := by
  cases r with
  | error e => simp [Except.map]
  | ok v => exact iff_of_false nofun nofun

theorem map_ofJson_none : r.map Chunk.ofJson = .ok none ↔ r = .ok .null := by
  cases r with
  | error e => exact iff_of_false nofun nofun
  | ok v => simp only [Except.map, Except.ok.injEq, Chunk.ofJson_eq_none_iff]

theorem map_ofJson_some {p : Chunk → Prop} :
    (∃ c, r.map Chunk.ofJson = .ok (some c) ∧ p c) ↔
      ∃ v c, r = .ok v ∧ Chunk.ofJson v = some c ∧ p c := by
  cases r with
  | error e => exact iff_of_false nofun nofun
  | ok v => simp [Except.map]

end Outcomes

/-- Whatever happened before to a lifecycle of valid options that waits for an outcome: an answer is
carried through as long as the hooks return. Once it is carried through, it has ended the stream as
one whose session is gone if and only if its status or its error says so; as one whose console was
closed if and only if the result is null; as one that is shut down if and only if there is a notice
in the result, and the first one decides. Any other failure is counted as one, after which there is
another fetch as long as the policy allows it; and after any other result the next fetch begins at
once. Results are shown in any case. -/
theorem answer_decides {o : Options} (hvalid : o.validate = .ok ()) (plan : Plan)
    (inputs : List Input) (s : Stream)
    (hhistory : s.lifecycle.drained = ((Lifecycle.ofOptions o).after inputs).drained)
    (hphase : s.lifecycle.phase = .polling) (hcount : s.lifecycle.failures ≠ 0xffffffff)
    (status : Nat) (body : String) :
    let s' := s.settle plan ((Rpc.parseResponse status body).map Chunk.ofJson)
    let isLast := o.backoff.exhausted (s.lifecycle.failures + 1)
    (plan.setting.HooksReturn → s'.stage ≠ .crashed) ∧
    (s'.stage ≠ .crashed →
      ((∃ e, s'.stage = .executing (.close (.sessionInvalid e))) ↔ Rpc.IsRevoked status body) ∧
      (s'.stage = .executing (.close .serverClosed) ↔ Rpc.Yields status body .null) ∧
      (∀ clean, s'.stage = .executing (.close (.shutdown clean)) ↔
        ∃ v c, Rpc.Yields status body v ∧ Chunk.ofJson v = some c ∧ c.notice? = some clean) ∧
      (s'.lifecycle.failures = s.lifecycle.failures + 1 ↔ Rpc.IsSetback status body) ∧
      ((∃ e, s'.stage = .executing (.close (.retriesExhausted e))) ↔
        Rpc.IsSetback status body ∧ isLast = true) ∧
      ((∃ delay, s'.IsPolling delay) ∧ s'.lifecycle.failures = s.lifecycle.failures + 1 ↔
        Rpc.IsSetback status body ∧ isLast = false) ∧
      (s'.IsPolling 0 ∧ s'.lifecycle.failures = 0 ↔
        ∃ v c, Rpc.Yields status body v ∧ Chunk.ofJson v = some c ∧ c.notice? = none) ∧
      ∀ reason, s'.stage = .executing (.close reason) → s'.IsEnding reason) ∧
    ∀ v, Rpc.Yields status body v → s'.scene.outlet.shown = s.scene.outlet.shown ++
      plan.setting.passed (plan.setting.converter.itemsAfter s.scene.outlet.converted
        (Chunk.contentsIn (Chunk.ofJson v))) := by
  intro s' isLast
  have hpolicy : s.lifecycle.backoff.policy = o.backoff :=
    (congrArg (·.backoff.policy) hhistory).trans (Lifecycle.after_policy o inputs)
  have hordered : s.lifecycle.backoff.policy.IsOrdered := by
    rw [hpolicy]
    exact (Options.accepted hvalid).1
  refine ⟨fun hhooks => settle_returns hhooks hordered hcount _, fun hreturns => ?_, ?_⟩
  · have h : Settled s s' _ := settled hphase hordered hcount hreturns
    have hretried := h.retried_iff hcount
    have hexhausted := h.exhausted_iff
    rw [hpolicy] at hretried hexhausted
    simp only [← Rpc.parseResponse_terminal_iff, ← Rpc.parseResponse_ok_iff,
      ← Rpc.parseResponse_transient_iff]
    exact ⟨h.invalid_iff.trans map_ofJson_error, h.serverClosed_iff.trans map_ofJson_none,
      fun clean => (h.shutdown_iff clean).trans map_ofJson_some,
      (h.counted_iff hcount).trans map_ofJson_error,
      hexhausted.trans (and_congr_left' map_ofJson_error),
      hretried.trans (and_congr_left' map_ofJson_error),
      (h.passed_iff hcount).trans map_ofJson_some, fun reason => h.isEnding⟩
  · intro v hyields
    have hbrought : (Rpc.parseResponse status body).map Chunk.ofJson = .ok (Chunk.ofJson v) := by
      rw [hyields.parseResponse_eq]
      rfl
    exact (congrArg (fun o => (s.settle plan o).scene.outlet.shown) hbrought).trans
      (settle_shown plan hphase _)

/-- A body with a result, and with an error that says that the session is gone. -/
def revokedBody : String := "\x7b\"error\": \x7b\"code\": 410\x7d, \"result\": \"late\"\x7d"

/-- After a failure and a wish to close, the answer ends the stream as one whose session is gone. -/
theorem answer_decides_revoked :
    let inputs : List Input := [.start 0, .receive (.error ⟨503, none⟩) 2, .requestClose]
    let plan : Plan := ⟨⟨⟨"app-1"⟩, ⟨fun _ _ => .nothing⟩, none, some fun _ _ => false⟩,
      ⟨⟨"in-process"⟩, ⟨"app-1"⟩, none, fun _ => ⟨0, .hang⟩⟩, 1⟩
    let s : Stream := { ofOptions .default .direct .empty with
      lifecycle := ((Lifecycle.ofOptions .default).after inputs).drained }
    s.lifecycle.closeReason = some .requested ∧
      ∃ e, (s.settle plan ((Rpc.parseResponse 200 revokedBody).map Chunk.ofJson)).stage =
        .executing (.close (.sessionInvalid e)) := by
  intro inputs plan s
  have hhooks : plan.setting.HooksReturn := by
    rintro panics hpanics journal e
    cases hpanics
    rfl
  have hparsed : Json.parse revokedBody = .ok (.object
      [("error", .object [("code", .int 410)]), ("result", .string "late")]) := by rfl
  have hrevoked : Rpc.IsRevoked 200 revokedBody :=
    .inr ⟨_, _, ⟨by decide, hparsed⟩, rfl, _, 410, rfl, rfl, by decide⟩
  obtain ⟨hreturns, hdecides, -⟩ :=
    answer_decides (o := .default) rfl plan inputs s rfl rfl (by decide) 200 revokedBody
  exact ⟨rfl, (hdecides (hreturns hhooks)).1.mpr hrevoked⟩

end Stream

end RemoteConsole
