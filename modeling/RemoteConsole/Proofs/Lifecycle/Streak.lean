import Mathlib.Data.List.DropRight
import RemoteConsole.Proofs.Lifecycle.Flight
import RemoteConsole.Proofs.Lifecycle.History
import RemoteConsole.Proofs.Lifecycle.Setback

/-!
# Retries of a streak

A streak begins after an outcome that was a success. The failures of a streak are counted by the
lifecycle, and its retries by the step of the backoff; the two counts part only when the stream
gives up.

* `Turn.succeeds`, `Turn.fails`, `Turn.told`: the call took a success, or a failure after which
  there may be another fetch; the events of the call.
* `Turn.streak`, `Turn.setbacks`, `Turn.retries`: the calls since the last success, and the failures
  and announced retries among them.
* `Verdict`: what a call does to the two counts, one case for each way (`verdict`).
* `Tallied`: the invariant that ties the counts to the state. One call keeps it (`Tallied.step`), so
  any number of calls do (`Tallied.turns`).
* `Lifecycle.retry_bookkeeping`: all of it for any calls on a lifecycle of valid options.
-/

namespace RemoteConsole

/-- The event announces a retry. -/
def Event.isRetry : Event → Bool
  | .retryScheduled _ _ _ => true
  | _ => false

namespace Turn

variable (t : Turn)

/-- The call took the chunk of a fetch, or the end of the console. -/
def succeeds : Bool :=
  match t.input with
  | .receive (.ok _) _ => t.accepts
  | _ => false

/-- The call took a failure that does not say that the session is gone. -/
def fails : Bool :=
  match t.input with
  | .receive (.error e) _ => t.accepts && !e.isTerminal
  | _ => false

/-- The events of the call. -/
def told : List Event := t.after.events.drop t.before.events.length

/-- The calls since the last success. -/
def streak (ts : List Turn) : List Turn := ts.rtakeWhile fun t => !t.succeeds

/-- The failures since the last success. -/
def setbacks (ts : List Turn) : Nat := (streak ts).countP fails

/-- The retries that were announced since the last success. -/
def retries (ts : List Turn) : Nat := ((streak ts).flatMap told).countP Event.isRetry

variable {t} {ts us : List Turn}

theorem told_eq {es : List Event} (h : t.after.events = t.before.events ++ es) : t.told = es := by
  rw [told, h, List.drop_left]

theorem streak_of_succeeds (h : t.succeeds = true) : streak (ts ++ [t]) = [] :=
  List.rtakeWhile_concat_neg _ _ _ (by simp [h])

/-- Calls without a success prolong the streak. -/
theorem streak_append (h : ∀ u ∈ us, u.succeeds = false) : streak (ts ++ us) = streak ts ++ us := by
  unfold streak List.rtakeWhile
  rw [List.reverse_append, List.takeWhile_append_of_pos, List.reverse_append, List.reverse_reverse]
  intro u hu
  rw [h u (List.mem_reverse.mp hu)]
  rfl

theorem setbacks_of_succeeds (h : t.succeeds = true) : setbacks (ts ++ [t]) = 0 := by
  rw [setbacks, streak_of_succeeds h]
  rfl

theorem retries_of_succeeds (h : t.succeeds = true) : retries (ts ++ [t]) = 0 := by
  rw [retries, streak_of_succeeds h]
  rfl

theorem setbacks_concat (h : t.succeeds = false) :
    setbacks (ts ++ [t]) = setbacks ts + if t.fails then 1 else 0 := by
  rw [setbacks, streak_append (by simpa using h), List.countP_append, List.countP_singleton]
  rfl

theorem retries_append (h : ∀ u ∈ us, u.succeeds = false) :
    retries (ts ++ us) = retries ts + (us.flatMap told).countP Event.isRetry := by
  rw [retries, streak_append h, List.flatMap_append, List.countP_append]
  rfl

theorem retries_concat (h : t.succeeds = false) :
    retries (ts ++ [t]) = retries ts + t.told.countP Event.isRetry := by
  rw [retries_append (by simpa using h), List.flatMap_singleton]

/-- A call that announces no retry. -/
theorem retries_concat_quiet {es : List Event} (h : t.succeeds = false)
    (hevents : t.after.events = t.before.events ++ es) (hquiet : es.countP Event.isRetry = 0) :
    retries (ts ++ [t]) = retries ts := by
  rw [retries_concat h, told_eq hevents, hquiet]
  rfl

theorem fails_iff : t.fails = true ↔ ∃ e now, t.input = .receive (.error e) now ∧
    t.before.phase = .polling ∧ e.isTerminal = false := by
  obtain ⟨before, input, output, after⟩ := t
  unfold fails accepts
  cases input with
  | receive outcome now => cases outcome <;> simp
  | start | delivered | requestClose | awaitHealth => simp

/-- A call that took a failure took no success. -/
theorem not_succeeds_of_fails (h : t.fails = true) : t.succeeds = false := by
  obtain ⟨e, now, hinput, -⟩ := fails_iff.mp h
  rw [succeeds, hinput]

theorem setbacks_of_fails (h : t.fails = true) : setbacks (ts ++ [t]) = setbacks ts + 1 := by
  rw [setbacks_concat (not_succeeds_of_fails h), h]
  rfl

end Turn

namespace Lifecycle

/-! ## One call -/

/-- The record of a call. -/
def turn (l : Lifecycle) (i : Input) : Turn := ⟨l, i, (l.respond i).2, (l.respond i).1⟩

/-- All that a call can do to the counts of a streak with so many retries under a policy, and the
events that it adds. -/
inductive Verdict (p : Backoff.Policy) (retries : Nat) (t : Turn) : Prop
  | quiet {es : List Event} (hsucceeds : t.succeeds = false) (hfails : t.fails = false)
      (hevents : t.after.events = t.before.events ++ es) (hquiet : es.countP Event.isRetry = 0)
      (hfailures : t.after.failures = t.before.failures)
      (hbackoff : t.after.backoff = t.before.backoff)
      (hphase : t.after.phase ≠ .backoff → t.after.phase ≠ .closed →
        t.before.phase ≠ .backoff ∧ t.before.phase ≠ .closed)
  | success {es : List Event} (hsucceeds : t.succeeds = true)
      (hevents : t.after.events = t.before.events ++ es) (hquiet : es.countP Event.isRetry = 0)
      (hfailures : t.after.failures = 0) (hbackoff : t.after.backoff = t.before.backoff.reset)
  | last {es : List Event} (hfails : t.fails = true)
      (hevents : t.after.events = t.before.events ++ es) (hquiet : es.countP Event.isRetry = 0)
      (hphase : t.before.phase = .polling) (hfailures : t.after.failures = t.before.failures + 1)
      (hbackoff : t.after.backoff = t.before.backoff) (hlast : t.after.phase = .backoff)
  | retry {e : FetchError} {now : Nat} (hfails : t.fails = true)
      (hinput : t.input = .receive (.error e) now)
      (hevents : t.after.events = t.before.events ++ [.phaseChanged .polling .backoff,
        .retryScheduled (p.wait (retries + 1)) t.before.backoff.step e.code,
        .phaseChanged .backoff .polling])
      (hphase : t.before.phase = .polling) (hfailures : t.after.failures = t.before.failures + 1)
      (hmore : p.exhausted (t.before.failures + 1) = false)
      (hbackoff : t.after.backoff = ⟨p, p.stepAfter (retries + 1)⟩)
      (houtput : t.output = .command (.fetch (p.wait (retries + 1))))

/-- The counts of the calls so far are those of the state. -/
structure Tallied (p : Backoff.Policy) (past : List Turn) (l : Lifecycle) : Prop where
  failures : l.failures.toNat = Turn.setbacks past
  backoff : l.backoff = ⟨p, p.stepAfter (Turn.retries past)⟩
  retries_le : Turn.retries past ≤ p.maxRetries.toNat
  level : l.phase ≠ .backoff → l.phase ≠ .closed → Turn.setbacks past = Turn.retries past
  events : l.events = past.flatMap Turn.told

variable {p : Backoff.Policy} {past : List Turn} {l l' : Lifecycle}

theorem turn_fails_iff {i : Input} : (l.turn i).fails = true ↔
    ∃ e now, i = .receive (.error e) now ∧ l.phase = .polling ∧ e.isTerminal = false :=
  Turn.fails_iff

theorem turn_receive {outcome : Outcome} {now : Nat} {c : Command}
    (h : l.receive outcome now = (l', .ok c)) :
    l.turn (.receive outcome now) = ⟨l, .receive outcome now, .command c, l'⟩ := by
  unfold turn respond
  simp only [h]

/-- A failure that is taken: the session is gone, the policy retries it no more, or there is another
fetch. -/
theorem verdict_error (hp : p.IsOrdered) (h : Tallied p past l) (hphase : l.phase = .polling)
    (e : FetchError) (now : Nat)
    (hcount : (l.turn (.receive (.error e) now)).fails = true → l.failures ≠ lastFailure) :
    Verdict p (Turn.retries past) (l.turn (.receive (.error e) now)) := by
  have hpolicy : l.backoff.policy = p := by rw [h.backoff]
  cases he : e.isTerminal with
  | true =>
    rw [turn_receive (l.receive_terminal hphase he now)]
    refine .quiet rfl ?_ rfl rfl rfl rfl fun hopen => absurd rfl hopen
    simp [Turn.fails, he]
  | false =>
    have hfails : (l.turn (.receive (.error e) now)).fails = true :=
      turn_fails_iff.mpr ⟨e, now, rfl, hphase, he⟩
    have hcount := hcount hfails
    cases hmore : l.backoff.policy.exhausted (l.failures + 1) with
    | true =>
      rw [turn_receive (l.receive_exhausted hphase he hcount hmore now)] at hfails ⊢
      exact .last hfails rfl rfl hphase rfl rfl rfl
    | false =>
      have hnext := hp.controller_nextDelay (Turn.retries past)
      rw [← h.backoff] at hnext
      rw [turn_receive (l.receive_retried hphase he hcount hmore hnext now)] at hfails ⊢
      exact .retry hfails rfl rfl hphase rfl (hpolicy ▸ hmore) rfl rfl

/-- The signal going down announces no retry. -/
theorem countP_calmed (l : Lifecycle) : l.calmed.countP Event.isRetry = 0 := by
  unfold calmed
  split <;> rfl

/-- What a call does to the counts that it finds, as long as they can be counted on. -/
theorem verdict (hp : p.IsOrdered) (h : Tallied p past l) (i : Input)
    (hcount : (l.turn i).fails = true → l.failures ≠ lastFailure) :
    Verdict p (Turn.retries past) (l.turn i) := by
  by_cases herror : ∃ e now, i = .receive (.error e) now ∧ l.phase = .polling
  · obtain ⟨e, now, rfl, hphase⟩ := herror
    exact verdict_error hp h hphase e now hcount
  · have hr := l.response i
    unfold turn
    generalize l.respond i = left at hr ⊢
    obtain ⟨l', output⟩ := left
    dsimp only at hr ⊢
    cases hr with
    | failedLast hphase | retried hphase | broken hphase =>
      exact absurd ⟨_, _, rfl, hphase⟩ herror
    | brought hphase =>
      refine .success (decide_eq_true hphase) (List.append_assoc _ _ _) ?_ rfl rfl
      rw [List.countP_append, countP_calmed]
      rfl
    | ignored hi =>
      have haccepts : Turn.accepts ⟨l, i, .command l.currentCommand, l⟩ = false := by
        cases i <;> simp_all [Turn.accepts, Input.isHeard]
      refine .quiet ?_ ?_ (List.append_nil _).symm rfl rfl rfl
        fun hopen hclosed => ⟨hopen, hclosed⟩
      · unfold Turn.succeeds
        split
        · exact haccepts
        · rfl
      · unfold Turn.fails
        split
        · rw [haccepts]; rfl
        · rfl
    | started hphase | continued hphase =>
      refine .quiet rfl rfl rfl rfl rfl rfl fun _ _ => ?_
      simp [hphase]
    | closed hphase =>
      refine .quiet rfl rfl (List.append_assoc _ _ _) ?_ rfl rfl
        fun _ hclosed => absurd rfl hclosed
      rw [List.countP_append, countP_calmed]
      rfl
    | asked =>
      exact .quiet rfl rfl (List.append_nil _).symm rfl rfl rfl
        fun hopen hclosed => ⟨hopen, hclosed⟩
    | awaited =>
      refine .quiet rfl rfl rfl ?_ rfl rfl fun hopen hclosed => ⟨hopen, hclosed⟩
      split <;> rfl

/-- The events of a call come after all earlier ones. -/
theorem Verdict.events {r : Nat} {t : Turn} (h : Verdict p r t) :
    t.after.events = t.before.events ++ t.told := by
  cases h with
  | quiet _ _ hevents | success _ hevents | last _ hevents | retry _ _ hevents =>
    rw [Turn.told_eq hevents, hevents]

/-- One call keeps the counts those of the state. -/
theorem Tallied.step (hp : p.IsOrdered) (h : Tallied p past l) (i : Input)
    (hcount : (l.turn i).fails = true → l.failures ≠ lastFailure) :
    Tallied p (past ++ [l.turn i]) (l.respond i).1 := by
  have hverdict := verdict hp h i hcount
  have htold : (l.respond i).1.events = (past ++ [l.turn i]).flatMap Turn.told := by
    rw [List.flatMap_append, List.flatMap_singleton, ← h.events]
    exact hverdict.events
  cases hverdict with
  | quiet hsucceeds hfails hevents hquiet hfailures hbackoff hphase =>
    have hsetbacks : Turn.setbacks (past ++ [l.turn i]) = Turn.setbacks past := by
      rw [Turn.setbacks_concat hsucceeds, hfails]; rfl
    have hretries : Turn.retries (past ++ [l.turn i]) = Turn.retries past :=
      Turn.retries_concat_quiet hsucceeds hevents hquiet
    refine ⟨?_, ?_, hretries ▸ h.retries_le, fun hopen hclosed => ?_, htold⟩
    · rw [hsetbacks, ← h.failures]; exact congrArg _ hfailures
    · rw [hretries, ← h.backoff]; exact hbackoff
    · obtain ⟨hopen, hclosed⟩ := hphase hopen hclosed
      rw [hsetbacks, hretries]; exact h.level hopen hclosed
  | success hsucceeds hevents hquiet hfailures hbackoff =>
    have hsetbacks : Turn.setbacks (past ++ [l.turn i]) = 0 := Turn.setbacks_of_succeeds hsucceeds
    have hretries : Turn.retries (past ++ [l.turn i]) = 0 := Turn.retries_of_succeeds hsucceeds
    refine ⟨?_, ?_, hretries ▸ Nat.zero_le _, fun _ _ => hsetbacks.trans hretries.symm, htold⟩
    · rw [hsetbacks]; exact congrArg _ hfailures
    · rw [hretries, hp.stepAfter_zero]
      refine hbackoff.trans ?_
      show l.backoff.reset = _
      rw [h.backoff]; rfl
  | last hfails hevents hquiet hphase hfailures hbackoff hlast =>
    have hsetbacks : Turn.setbacks (past ++ [l.turn i]) = Turn.setbacks past + 1 :=
      Turn.setbacks_of_fails hfails
    have hretries : Turn.retries (past ++ [l.turn i]) = Turn.retries past :=
      Turn.retries_concat_quiet (Turn.not_succeeds_of_fails hfails) hevents hquiet
    refine ⟨?_, ?_, hretries ▸ h.retries_le, fun hopen => absurd hlast hopen, htold⟩
    · rw [hsetbacks, ← h.failures, ← toNat_succ (hcount hfails)]
      exact congrArg _ hfailures
    · rw [hretries, ← h.backoff]; exact hbackoff
  | retry hfails hinput hevents hphase hfailures hmore hbackoff houtput =>
    have hsetbacks : Turn.setbacks (past ++ [l.turn i]) = Turn.setbacks past + 1 :=
      Turn.setbacks_of_fails hfails
    have hretries : Turn.retries (past ++ [l.turn i]) = Turn.retries past + 1 := by
      rw [Turn.retries_concat (Turn.not_succeeds_of_fails hfails), Turn.told_eq hevents]
      rfl
    have hlevel : Turn.setbacks past = Turn.retries past :=
      h.level (by rw [show l.phase = _ from hphase]; decide)
        (by rw [show l.phase = _ from hphase]; decide)
    have hcounted : (l.failures + 1).toNat = Turn.setbacks past + 1 := by
      rw [toNat_succ (hcount hfails), h.failures]
    have hbound : (l.failures + 1).toNat ≤ p.maxRetries.toNat :=
      Nat.le_of_not_lt (UInt32.lt_iff_toNat_lt.not.mp (of_decide_eq_false hmore))
    refine ⟨?_, hretries ▸ hbackoff, by omega, fun _ _ => by omega, htold⟩
    rw [hsetbacks, ← hcounted]
    exact congrArg _ hfailures

/-! ## Any calls -/

/-- Under a policy that does not retry for ever, a failure that is taken can be counted. -/
theorem Sound.ne_lastFailure_of_fails (h : l.Sound p) (hmax : p.maxRetries ≠ lastFailure)
    {i : Input} (hfails : (l.turn i).fails = true) : l.failures ≠ lastFailure := by
  obtain ⟨-, -, -, hphase, -⟩ := turn_fails_iff.mp hfails
  exact h.ne_lastFailure hmax hphase

theorem tallied_ofOptions {o : Options} (hp : o.backoff.IsOrdered) :
    Tallied o.backoff [] (ofOptions o) :=
  ⟨rfl, congrArg (Backoff.Controller.mk _) hp.stepAfter_zero.symm, Nat.zero_le _, fun _ _ => rfl,
    rfl⟩

/-- Any number of calls keep the counts those of the state. -/
theorem Tallied.turns (hp : p.IsOrdered) (hmax : p.maxRetries ≠ lastFailure) (hsound : l.Sound p)
    (h : Tallied p past l) (inputs : List Input) :
    Tallied p (past ++ l.turns inputs) (l.after inputs) := by
  induction inputs generalizing past l with
  | nil => rwa [Lifecycle.turns, List.append_nil]
  | cons i inputs ih =>
    have hnext := ih (hsound.step hp hmax (l.response i)).1
      (h.step hp i (hsound.ne_lastFailure_of_fails hmax))
    rwa [List.append_assoc] at hnext

/-- Each call of a record is judged by the counts of the calls before it. -/
theorem verdict_of_cut {o : Options} (hp : o.backoff.IsOrdered)
    (hmax : o.backoff.maxRetries ≠ lastFailure) {inputs : List Input} {pre post : List Turn}
    {t : Turn} (hcut : (ofOptions o).turns inputs = pre ++ t :: post) :
    Tallied o.backoff pre t.before ∧ Verdict o.backoff (Turn.retries pre) t := by
  obtain ⟨earlier, later, -, rfl, hlater⟩ := turns_cut _ hcut
  cases later with
  | nil => cases hlater
  | cons i later =>
    obtain ⟨rfl, -⟩ := List.cons.inj hlater
    have hsound := sound_after hp hmax earlier
    have htallied := (tallied_ofOptions hp).turns hp hmax (sound_ofOptions o) earlier
    exact ⟨htallied, verdict hp htallied i (hsound.ne_lastFailure_of_fails hmax)⟩

/-- A retry is announced by a call that took a failure, with the delay that its fetch is given. -/
theorem Verdict.retry_of_mem {r : Nat} {t : Turn} (h : Verdict p r t) {delay : Nat} {step : UInt32}
    {code : Int} (hmem : .retryScheduled delay step code ∈ t.told) :
    (∃ e now, t.input = .receive (.error e) now ∧ code = e.code) ∧ t.fails = true ∧
      step = t.before.backoff.step ∧ delay = p.wait (r + 1) ∧
      t.output = .command (.fetch delay) := by
  have hpos : 0 < t.told.countP Event.isRetry := List.countP_pos_iff.mpr ⟨_, hmem, rfl⟩
  cases h with
  | quiet _ _ hevents hquiet | success _ hevents hquiet | last _ hevents hquiet =>
    rw [Turn.told_eq hevents] at hpos
    exact absurd hquiet (Nat.ne_of_gt hpos)
  | @retry e now hfails hinput hevents _ _ _ _ houtput =>
    rw [Turn.told_eq hevents] at hmem
    simp only [List.mem_cons, reduceCtorEq, Event.retryScheduled.injEq, List.not_mem_nil, or_false,
      false_or] at hmem
    obtain ⟨rfl, rfl, rfl⟩ := hmem
    exact ⟨⟨e, now, hinput, rfl⟩, hfails, rfl, rfl, houtput⟩

/-- The delays of a streak do not decrease. -/
theorem wait_le_wait (p : Backoff.Policy) {r r' : Nat} (h : r ≤ r') : p.wait r ≤ p.wait r' := by
  unfold Backoff.Policy.wait
  have hexp : min (p.initialStep.toNat + r - 1) p.maxStep.toNat ≤
      min (p.initialStep.toNat + r' - 1) p.maxStep.toNat := by omega
  have hpow := Nat.pow_le_pow_right (n := 2) (by decide) hexp
  have hmul := Nat.mul_le_mul_right p.unitMs.toNat hpow
  omega

/-- Whatever is called, and in whatever order, with options that are valid: the failures that are
counted are those since the last success; at most `maxRetries` of them were retried, and the step of
the backoff is that many steps above the first, as far as the last; and a retry is announced only by
a call that takes a failure, with the step that it finds, the code of the failure, and the delay of
the step, which is the delay of the fetch. So the delays of a streak do not decrease, and each
streak begins with the first step. -/
theorem retry_bookkeeping (o : Options) (hvalid : o.validate = .ok ())
    (hretries : o.backoff.maxRetries ≠ 0xffffffff) (inputs : List Input) :
    let ts := (ofOptions o).turns inputs
    let l := (ofOptions o).after inputs
    l.failures.toNat = Turn.setbacks ts ∧
    Turn.retries ts ≤ o.backoff.maxRetries.toNat ∧
    l.backoff.step.toNat =
      min (o.backoff.initialStep.toNat + Turn.retries ts) o.backoff.maxStep.toNat ∧
    l.events = ts.flatMap Turn.told ∧
    (∀ t ∈ ts, ∀ delay step code, .retryScheduled delay step code ∈ t.told →
      step = t.before.backoff.step ∧
      (∃ e now, t.input = .receive (.error e) now ∧ code = e.code) ∧ t.fails = true ∧
      delay = min (2 ^ step.toNat * o.backoff.unitMs.toNat) (2 ^ 64 - 1) ∧
      t.output = .command (.fetch delay)) ∧
    (∀ pre t between t' post delay step code delay' step' code',
      ts = pre ++ t :: between ++ t' :: post → (∀ u ∈ between, u.succeeds = false) →
      .retryScheduled delay step code ∈ t.told → .retryScheduled delay' step' code' ∈ t'.told →
      delay ≤ delay') ∧
    ∀ pre t post delay step code, ts = pre ++ t :: post → Turn.retries pre = 0 →
      .retryScheduled delay step code ∈ t.told → step = o.backoff.initialStep := by
  intro ts l
  have hp := (Options.accepted hvalid).1
  have h : Tallied o.backoff ts l :=
    (tallied_ofOptions hp).turns hp hretries (sound_ofOptions o) inputs
  refine ⟨h.failures, h.retries_le, ?_, h.events, ?_, ?_, ?_⟩
  · rw [h.backoff]
    exact hp.stepAfter_toNat _
  · intro t ht delay step code hmem
    obtain ⟨pre, post, hcut⟩ := List.append_of_mem ht
    obtain ⟨hbefore, hverdict⟩ := verdict_of_cut hp hretries hcut
    obtain ⟨hinput, hfails, rfl, rfl, houtput⟩ := hverdict.retry_of_mem hmem
    refine ⟨rfl, hinput, hfails, ?_, houtput⟩
    rw [hbefore.backoff, hp.stepAfter_toNat]
    rfl
  · intro pre t between t' post delay step code delay' step' code' hcut hbetween hmem hmem'
    have hearly : ts = pre ++ t :: (between ++ t' :: post) := by
      rw [hcut, List.append_assoc, List.cons_append]
    obtain ⟨-, hverdict⟩ := verdict_of_cut hp hretries hearly
    obtain ⟨-, hverdict'⟩ := verdict_of_cut hp hretries hcut
    obtain ⟨-, hfails, -, rfl, -⟩ := hverdict.retry_of_mem hmem
    obtain ⟨-, -, -, rfl, -⟩ := hverdict'.retry_of_mem hmem'
    have hstreak : ∀ u ∈ t :: between, u.succeeds = false :=
      List.forall_mem_cons.mpr ⟨Turn.not_succeeds_of_fails hfails, hbetween⟩
    refine wait_le_wait _ (Nat.succ_le_succ ?_)
    rw [Turn.retries_append hstreak]
    exact Nat.le_add_right _ _
  · intro pre t post delay step code hcut hfirst hmem
    obtain ⟨hbefore, hverdict⟩ := verdict_of_cut hp hretries hcut
    obtain ⟨-, -, rfl, -⟩ := hverdict.retry_of_mem hmem
    rw [hbefore.backoff, hfirst]
    exact hp.stepAfter_zero

/-- Two failures, a success, and a failure: the third retry waits no longer than the first. -/
theorem retry_bookkeeping_brief :
    let inputs : List Input :=
      [.start 0, .receive (.error (.transport "refused")) 2, .receive (.error ⟨503, none⟩) 258,
        .receive (.ok (some (.text "ready"))) 770, .delivered .continue 770,
        .receive (.error ⟨503, none⟩) 771]
    let ts := (ofOptions .default).turns inputs
    (ts.flatMap Turn.told).filter Event.isRetry =
        [.retryScheduled 256 8 0, .retryScheduled 512 9 503, .retryScheduled 256 8 503] ∧
      Turn.setbacks ts = 1 ∧ ((ofOptions .default).after inputs).failures.toNat = 1 := by
  intro inputs ts
  have h := retry_bookkeeping .default rfl (by decide) inputs
  have hsetbacks : Turn.setbacks ts = 1 := by decide
  exact ⟨by decide, hsetbacks, h.1.trans hsetbacks⟩

end Lifecycle

end RemoteConsole
