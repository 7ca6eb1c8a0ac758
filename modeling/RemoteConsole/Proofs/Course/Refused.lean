import RemoteConsole.Proofs.Course.Run
import RemoteConsole.Proofs.Stream.Farewell
import RemoteConsole.Proofs.Stream.Protocol
import RemoteConsole.Proofs.Stream.Refused

/-!
# Runs of clients that cannot connect

* `Policy.elapsed`, `Policy.retriesOf`, `FetchError.verdict`: the time that the first waits of a
  streak take, how often an error is retried, and why the stream ends that keeps failing with it.
* `Policy.refusals`: the events of such a stream, with their times.
* `Feed.refusing`: the feed of a server that lets in and whose fetches fail at once, and its
  timetable.
* `Client.Refused`: the first connection attempt of the client fails. `Client.start_refused`: what
  its streams do, with a worker and without.
-/

namespace RemoteConsole

open Schedule

/-- The time that the first `n` waits of a streak take. -/
def Backoff.Policy.elapsed (p : Policy) : Nat → Nat
  | 0 => 0
  | n + 1 => p.elapsed n + p.wait (n + 1)

/-- How often a fetch is retried that keeps failing with the error. -/
def Backoff.Policy.retriesOf (p : Policy) (err : FetchError) : Nat :=
  if err.isTerminal then 0 else p.maxRetries.toNat

/-- Why a stream ends whose fetches keep failing with the error. -/
def FetchError.verdict (err : FetchError) : CloseReason :=
  if err.isTerminal then .sessionInvalid err else .retriesExhausted err

/-- The events of a stream whose fetches keep failing with the error, with their times: each retry
is announced with its delay, and the next failure comes when that is over. -/
def Backoff.Policy.refusals (p : Policy) (err : FetchError) : List (Nat × Event) :=
  (0, .phaseChanged .idle .polling) ::
    (List.range (p.retriesOf err)).flatMap (fun i => [
      (p.elapsed i, .phaseChanged .polling .backoff),
      (p.elapsed i, .retryScheduled (p.wait (i + 1)) (p.stepAfter i) err.code),
      (p.elapsed i, .phaseChanged .backoff .polling)]) ++ [
    (p.elapsed (p.retriesOf err), .phaseChanged .polling .backoff),
    (p.elapsed (p.retriesOf err), .phaseChanged .backoff .closed),
    (p.elapsed (p.retriesOf err), .closed err.verdict)]

variable {err : FetchError} {p : Backoff.Policy} {c : Client} {i : Nat} {isThreaded : Bool}

/-! ## The timetable of a streak -/

/-- Every fetch fails at once with the error. -/
def Feed.refusing (err : FetchError) : Feed := ⟨fun _ => .error err, fun _ => 0⟩

namespace Feed

theorem streak_refusing (ht : err.isTerminal = false) (n : Nat) : (refusing err).streak n = n := by
  induction n with
  | zero => rfl
  | succ n ih => rw [streak_error (e := err) rfl ht, ih]

theorem ending?_refusing (ht : err.isTerminal = false) (i : Nat) :
    (refusing err).ending? p i =
      if i = p.maxRetries.toNat then some (.retriesExhausted err) else none := by
  rw [ending?_error (e := err) rfl ht, streak_refusing ht]
  simp only [Nat.add_right_cancel_iff]

/-- The stream stays open as long as there are retries. -/
theorem open_refusing (h : i < p.retriesOf err) : (refusing err).ending? p i = none := by
  unfold Backoff.Policy.retriesOf at h
  split at h
  · exact absurd h (Nat.not_lt_zero i)
  · next ht =>
    rw [ending?_refusing (Bool.eq_false_iff.mpr ht)]
    exact if_neg (Nat.ne_of_lt h)

theorem ending?_refusing_last :
    (refusing err).ending? p (p.retriesOf err) = some err.verdict := by
  unfold Backoff.Policy.retriesOf FetchError.verdict
  cases ht : err.isTerminal with
  | true => exact ending?_terminal rfl ht
  | false => rw [ending?_refusing ht]; exact if_pos rfl

/-- Within the retries, the streak is as long as the run. -/
theorem streak_refusing_le (h : i ≤ p.retriesOf err) : (refusing err).streak i = i := by
  unfold Backoff.Policy.retriesOf at h
  split at h
  · rw [Nat.le_zero.mp h]; rfl
  · next ht => exact streak_refusing (Bool.eq_false_iff.mpr ht) i

theorem pause_refusing (h : i < p.retriesOf err) :
    (refusing err).pause p i = p.wait (i + 1) := by
  unfold pause
  rw [streak_refusing_le h]
  rfl

theorem arrival_refusing (h : i ≤ p.retriesOf err) :
    (refusing err).arrival p i = p.elapsed i := by
  induction i with
  | zero => rfl
  | succ i ih =>
    show (refusing err).beginning p (i + 1) + 0 = p.elapsed i + p.wait (i + 1)
    rw [beginning_succ, ih (Nat.le_of_succ_le h), pause_refusing h]
    rfl

theorem log_refusing (h : i ≤ p.retriesOf err) :
    (refusing err).log p i = (0, .phaseChanged .idle .polling) ::
      (List.range i).flatMap fun j => [
        (p.elapsed j, .phaseChanged .polling .backoff),
        (p.elapsed j, .retryScheduled (p.wait (j + 1)) (p.stepAfter j) err.code),
        (p.elapsed j, .phaseChanged .backoff .polling)] := by
  induction i with
  | zero => rfl
  | succ i ih =>
    have hi : i ≤ p.retriesOf err := Nat.le_of_succ_le h
    rw [log_succ, ih hi, passage_error (e := err) rfl, arrival_refusing hi, pause_refusing h,
      streak_refusing_le hi, List.range_succ, List.flatMap_append, List.flatMap_singleton]
    rfl

/-- The events of a stream that the feed closes. -/
theorem logClosed_refusing : (refusing err).logClosed p (p.retriesOf err) = p.refusals err := by
  unfold logClosed logReceived Backoff.Policy.refusals
  rw [log_refusing (Nat.le_refl _), arrival_refusing (Nat.le_refl _), ending?_refusing_last,
    List.append_assoc]
  rfl

end Feed

/-! ## Clients that cannot connect -/

/-- The first connection attempt of the client fails with the error, whatever the server would do
later; its options are valid and its channels can be had, and its hooks return. The largest number
of retries is left out: after so many failures the counter would be full. -/
structure Client.Refused (c : Client) (err : FetchError) : Prop where
  valid : c.options.validate = .ok ()
  retries : c.options.backoff.maxRetries ≠ 0xffffffff
  orders : c.options.workerCapacity.toNat ≤ Worker.capacityLimit
  events : c.options.eventCapacity.toNat ≤ Broadcast.capacityLimit
  hooks : c.setting.HooksReturn
  refuses : (c.server.connect .empty).1 = .error err

/-- The client with a server that lets in, and whose fetches fail at once. -/
def Client.refusing (c : Client) (err : FetchError) : Client :=
  { c with server := c.server.refusing err }

namespace Client.Refused

variable (hc : c.Refused err)
include hc

theorem plan : c.plan.Refused err where
  refuses := hc.refuses
  pos := (Options.accepted hc.valid).2
  orders := hc.orders
  hooks := hc.hooks

theorem served : (c.refusing err).Served (.refusing err) where
  valid := hc.valid
  retries := hc.retries
  orders := hc.orders
  events := hc.events
  call := rfl
  connects := rfl
  hooks := hc.hooks

theorem withOffload (mode : OffloadMode) : (c.withOffload mode).Refused err :=
  ⟨hc.valid, hc.retries, hc.orders, hc.events, hc.hooks, hc.refuses⟩

/-- A stream that is to fetch by itself does not start. -/
theorem start_direct {isThreaded : Bool} (hmode : c.options.offload.offloads isThreaded = false) :
    c.start isThreaded .empty =
      (.error (.error (.connect err)), (c.server.connect .empty).2) := by
  unfold start
  rw [Poller.select_refused hmode hc.refuses]

/-- The only thing that the attempt leaves behind is its entry. -/
theorem connect_eq : (c.server.connect .empty).2 =
    { Scene.empty.note (.connected c.server.endpoint) with attempts := 1 } := by
  have hrefuses := hc.refuses
  unfold Server.connect at hrefuses ⊢
  cases hconnection : c.server.connection with
  | none => rw [hconnection] at hrefuses; cases hrefuses
  | some failure => dsimp only; split <;> rfl

/-- A stream whose worker cannot connect comes to the end to which it would come if the worker were
let in. -/
theorem finish {s₀ : Stream} (hs₀ : s₀ = .ofOptions c.options .pending .empty) :
    ∃ n s, IsDone c.plan (after c.plan n (ofStream c.plan s₀)) ∧
      s = (after c.plan n (ofStream c.plan s₀)).stream ∧ Stream.Reach c.plan s₀ s ∧
      (∃ p, s.Poses err p) ∧
      s.milestones = c.options.backoff.refusals err ∧ s.closed? = some err.verdict ∧
      s.now = c.options.backoff.elapsed (c.options.backoff.retriesOf err) := by
  have hposes : s₀.Poses err .pending := by
    subst hs₀
    exact ⟨.inl .pending, nofun, ⟨rfl, rfl⟩, fun hne => absurd rfl hne⟩
  -- The stream whose worker is let in is on the course of a feed; what it comes to is known.
  have hcourse : OnCourse (c.refusing err) (.refusing err) .ready
      ((ofStream c.plan s₀).posed .pending .empty) := by
    rw [← ofStream_posed hc.plan hposes .empty, hs₀]
    exact onCourse_offloaded hc.served
  obtain ⟨n, hdone, hend⟩ := hcourse.finish hc.served (fun i hi => Feed.open_refusing hi)
    Feed.ending?_refusing_last
  rw [← ofStream_stream c.plan s₀] at hposes
  obtain ⟨p, sc, hdone', hposes', hafter⟩ := done_posed hc.plan hposes hdone
  have htrace : ((after c.plan n (ofStream c.plan s₀)).stream.posed p sc).trace =
      (Point.finished ((c.refusing err).options.backoff.retriesOf err)).trace (c.refusing err)
        (.refusing err) :=
    (congrArg (·.stream.trace) hafter).symm.trans hend.here.trace
  have hreach := reach_after c.plan n (ofStream c.plan s₀)
  rw [ofStream_stream] at hreach
  refine ⟨n, _, hdone', rfl, hreach, ⟨p, hposes'⟩, ?_⟩
  generalize (after c.plan n (ofStream c.plan s₀)).stream = s at htrace
  have hmilestones : s.milestones = c.options.backoff.refusals err :=
    (congrArg (·.events) htrace).trans Feed.logClosed_refusing
  have hending : s.closed?.map (fun reason => (reason, s.now)) =
      some (err.verdict, c.options.backoff.elapsed (c.options.backoff.retriesOf err)) := by
    have harrival := Feed.arrival_refusing (Nat.le_refl (c.options.backoff.retriesOf err))
    rw [← harrival]
    refine (congrArg (·.ending) htrace).trans ?_
    exact congrArg (Option.map _) Feed.ending?_refusing_last
  obtain ⟨reason, hclosed, heq⟩ := Option.map_eq_some_iff.mp hending
  obtain ⟨rfl, hnow⟩ := Prod.mk.inj heq
  exact ⟨hmilestones, hclosed, hnow⟩

end Client.Refused

/-- Without a request to close, a stream only ends after an outcome. -/
theorem Stream.HasCause.consumed_ne_nil {s : Stream} {reason : CloseReason}
    (h : s.HasCause reason) (hne : reason ≠ .requested) : s.consumed ≠ [] := by
  rcases h with ⟨hrequested, -⟩ | ⟨o, hlast, -⟩
  · exact absurd hrequested hne
  · intro hnil
    unfold outcomes at hlast
    rw [hnil] at hlast
    cases hlast

theorem FetchError.verdict_ne_requested (err : FetchError) : err.verdict ≠ .requested := by
  unfold verdict
  split <;> nofun

theorem FetchError.farewell_verdict (err : FetchError) (session : SessionId) :
    err.verdict.farewell session = [.closed] := by
  unfold verdict
  split <;> rfl

/-! ## Main statement -/

/-- What the streams of a client do whose first connection attempt fails. With a worker, the stream
starts and connects once; nothing is fetched. Its worker answers every order with the error, so that
the stream retries as after a streak of failures, waits out every delay, and ends when the error is
terminal or the retries are over. The hooks are told of the close and of nothing else. Without a
worker, the stream does not start. -/
theorem Client.start_refused (isThreaded : Bool) (hc : c.Refused err) :
    (∃ s₀, (c.withOffload .always).start isThreaded .empty = (.ok s₀, .empty) ∧
      ∃ s bound, (∀ limit settleSteps steps,
          bound ≤ limit → bound ≤ settleSteps → bound ≤ steps →
          Rehearsal.runUntil c.plan limit settleSteps steps ⟨s₀, true, true, []⟩ =
            (⟨s, true, true, []⟩, .over)) ∧
        s.scene.attempts = 1 ∧ s.scene.calls = 0 ∧ s.scene.begun = [] ∧
        s.milestones = c.options.backoff.refusals err ∧ s.closed? = some err.verdict ∧
        s.now = c.options.backoff.elapsed (c.options.backoff.retriesOf err) ∧
        s.hookCalls = c.setting.heard [.closed]) ∧
    (c.withOffload .never).start isThreaded .empty =
      (.error (.error (.connect err)),
        { Scene.empty.note (.connected c.server.endpoint) with attempts := 1 }) := by
  have halways : (c.withOffload .always).Refused err := hc.withOffload .always
  have hnever : (c.withOffload .never).Refused err := hc.withOffload .never
  constructor
  · have hstart : (c.withOffload .always).start isThreaded .empty =
        (.ok (.ofOptions (c.withOffload .always).options .pending .empty), .empty) :=
      start_pending .empty rfl halways.events
    obtain ⟨n, s, hdone, rfl, hreach, ⟨p, hposes⟩, hmilestones, hclosed, hnow⟩ :=
      halways.finish rfl
    obtain ⟨bound, hrun⟩ := Rehearsal.runUntil_of_after _ n _ hdone
    have hcause := Stream.hasCause_of_closed hstart hreach hclosed
    have hhooks := Stream.hookCalls_of_closed halways.hooks hstart hreach hclosed
    rw [err.farewell_verdict] at hhooks
    refine ⟨_, hstart, _, bound, fun limit settleSteps steps hlimit hsettles hsteps =>
      hrun limit settleSteps steps hlimit hsettles hsteps true true, ?_, hposes.unfetched.1,
      hposes.unfetched.2, hmilestones, hclosed, hnow, hhooks⟩
    exact hposes.counted (hcause.consumed_ne_nil err.verdict_ne_requested)
  · rw [hnever.start_direct rfl, hnever.connect_eq]
    rfl

/-- A client with two retries whose server refuses at first and would let in later. -/
def Client.shunned : Client where
  server := {
    endpoint := ⟨"127.0.0.1:9000"⟩
    session := ⟨"console"⟩
    connection := some fun n => if n = 0 then some (.transport "refused") else none
    call := Feed.brief.call }
  setting := ⟨⟨"console"⟩, .standard, some Buffer.display, some fun _ _ => false⟩
  options := Options.default.withBackoff (Backoff.Policy.default.withMaxRetries 2)

/-- Its stream retries after 256 and after another 512 milliseconds, and does not connect again. -/
theorem Client.start_refused_brief :
    Client.shunned.Refused (.transport "refused") ∧
    (∃ s₀, (Client.shunned.withOffload .always).start true .empty = (.ok s₀, .empty) ∧
      ∃ s bound, (∀ limit settleSteps steps,
          bound ≤ limit → bound ≤ settleSteps → bound ≤ steps →
          Rehearsal.runUntil Client.shunned.plan limit settleSteps steps ⟨s₀, true, true, []⟩ =
            (⟨s, true, true, []⟩, .over)) ∧
        s.scene.attempts = 1 ∧ s.scene.begun = [] ∧
        s.milestones = [
          (0, .phaseChanged .idle .polling), (0, .phaseChanged .polling .backoff),
          (0, .retryScheduled 256 8 0), (0, .phaseChanged .backoff .polling),
          (256, .phaseChanged .polling .backoff), (256, .retryScheduled 512 9 0),
          (256, .phaseChanged .backoff .polling), (768, .phaseChanged .polling .backoff),
          (768, .phaseChanged .backoff .closed),
          (768, .closed (.retriesExhausted (.transport "refused")))] ∧
        s.hookCalls = [.closed]) ∧
    ∃ scene, (Client.shunned.withOffload .never).start true .empty =
      (.error (.error (.connect (.transport "refused"))), scene) := by
  have hc : Client.shunned.Refused (.transport "refused") := by
    refine ⟨rfl, ?_, ?_, ?_, ?_, rfl⟩
    · show (2 : UInt32) ≠ 0xffffffff
      decide
    · show Options.default.workerCapacity.toNat ≤ Worker.capacityLimit
      decide
    · show Options.default.eventCapacity.toNat ≤ Broadcast.capacityLimit
      decide
    · rintro _ ⟨⟩ _ _
      rfl
  obtain ⟨⟨s₀, hstart, s, bound, hrun, hattempts, -, hbegun, hmilestones, -, -, hhooks⟩, hnever⟩ :=
    Client.start_refused true hc
  refine ⟨hc, ⟨s₀, hstart, s, bound, hrun, hattempts, hbegun, ?_, hhooks⟩, _, hnever⟩
  rw [hmilestones]
  decide +kernel

end RemoteConsole
