import RemoteConsole.Proofs.Lifecycle.Debounce
import RemoteConsole.Proofs.Lifecycle.Streak

/-!
# When failures can be counted no more

A lifecycle counts the failures of a streak in 32 bits. A policy that gives up in time keeps the
count small; one that allows as many retries as there are numbers does not.

* `Lifecycle.respond_broken_iff`: a call breaks off when it takes a failure that there is no number
  for, and for no other reason.
* `Lifecycle.IsOver`: the stream fetches no more. `Lifecycle.tallied_or_over`: until then the
  failures of the streak are counted right, whatever the policy retries.
* `Lifecycle.after_failures`, `exists_broken`: a policy that allows as many retries as can be counted
  makes them all, and breaks off then. `Lifecycle.ne_broken_of_mem`: any other never does.
* `Lifecycle.breaks_off_iff`: which call of a run breaks off, and which options let none do so.
-/

namespace RemoteConsole

namespace Lifecycle

variable {p : Backoff.Policy} {past : List Turn} {l : Lifecycle} {e : FetchError}

/-! ## The call that breaks off -/

theorem respond_overflowed (h : l.phase = .polling) (he : e.isTerminal = false)
    (hlast : l.failures = lastFailure) (now : Nat) :
    l.respond (.receive (.error e) now) = (l.enter .backoff, .broken .counterOverflow) := by
  simp only [respond, l.receive_overflowed h he hlast now]

/-- Under an ordered policy a call breaks off if and only if it takes a failure when as many were
counted as there are numbers for. -/
theorem respond_broken_iff (hp : l.backoff.policy.IsOrdered) {i : Input} {fault : Fault} :
    (l.respond i).2 = .broken fault ↔
      fault = .counterOverflow ∧ (l.turn i).fails = true ∧ l.failures = lastFailure := by
  have hr := l.response i
  constructor
  · intro hbroken
    have hlast : l.failures = lastFailure := by
      by_contra hcount
      exact hr.ne_broken hp (fun _ => hcount) fault hbroken
    obtain ⟨e, now, rfl, hphase⟩ : ∃ e now, i = .receive (.error e) now ∧ l.phase = .polling := by
      rw [hbroken] at hr
      generalize (l.respond i).1 = l' at hr
      cases hr with
      | broken hphase => exact ⟨_, _, rfl, hphase⟩
    cases he : e.isTerminal with
    | true =>
      simp only [respond, l.receive_terminal hphase he now] at hbroken
      cases hbroken
    | false =>
      rw [respond_overflowed hphase he hlast] at hbroken
      cases hbroken
      exact ⟨rfl, turn_fails_iff.mpr ⟨e, now, rfl, hphase, he⟩, hlast⟩
  · rintro ⟨rfl, hfails, hlast⟩
    obtain ⟨e, now, rfl, hphase, he⟩ := turn_fails_iff.mp hfails
    rw [respond_overflowed hphase he hlast]

/-! ## The count until then -/

/-- The stream fetches no more: it has given up, or is closed. -/
def IsOver (l : Lifecycle) : Prop := l.phase = .backoff ∨ l.phase = .closed

/-- A stream that fetches no more takes no failure. -/
theorem IsOver.ne_polling (h : l.IsOver) : l.phase ≠ .polling := by
  rcases h with h | h <;> rw [h] <;> decide

theorem IsOver.respond (h : l.IsOver) (i : Input) : (l.respond i).1.IsOver := by
  have hr := l.response i
  generalize l.respond i = left at hr
  obtain ⟨l', output⟩ := left
  dsimp only at hr ⊢
  cases hr with
  | ignored | asked | awaited => exact h
  | closed => exact .inr rfl
  | brought hphase | failedLast hphase | retried hphase | broken hphase =>
    exact absurd hphase h.ne_polling
  | started hphase | continued hphase => rcases h with h | h <;> rw [hphase] at h <;> cases h

/-- One call keeps the count right, unless the stream is over with it. -/
theorem tallied_or_over (hp : p.IsOrdered) (h : Tallied p past l ∨ l.IsOver) (i : Input) :
    Tallied p (past ++ [l.turn i]) (l.respond i).1 ∨ (l.respond i).1.IsOver := by
  rcases h with h | hover
  · by_cases hcount : (l.turn i).fails = true → l.failures ≠ lastFailure
    · exact .inl (h.step hp i hcount)
    · obtain ⟨hfails, hlast⟩ := not_forall.mp hcount
      obtain ⟨e, now, rfl, hphase, he⟩ := turn_fails_iff.mp hfails
      have hleave : l.phase ≠ .backoff := by rw [hphase]; decide
      rw [respond_overflowed hphase he (not_not.mp hlast), l.enter_eq hleave]
      exact .inr (.inl rfl)
  · exact .inr (hover.respond i)

/-- Any number of calls do. -/
theorem tallied_or_over_turns (hp : p.IsOrdered) (h : Tallied p past l ∨ l.IsOver)
    (inputs : List Input) :
    Tallied p (past ++ l.turns inputs) (l.after inputs) ∨ (l.after inputs).IsOver := by
  induction inputs generalizing past l with
  | nil => rwa [turns, List.append_nil]
  | cons i inputs ih =>
    have hnext := ih (tallied_or_over hp h i)
    rwa [List.append_assoc] at hnext

/-! ## Failures for ever -/

theorem turns_concat (l : Lifecycle) (xs : List Input) (i : Input) :
    l.turns (xs ++ [i]) = l.turns xs ++ [(l.after xs).turn i] := by
  induction xs generalizing l with
  | nil => rfl
  | cons x xs ih => exact congrArg (_ :: ·) (ih _)

/-- A policy that allows the most retries gives up after none of the failures that can be
counted. -/
theorem not_exhausted_of_maxRetries (hmax : p.maxRetries = lastFailure) (failures : UInt32) :
    p.exhausted failures = false := by
  have hlt := failures.toNat_lt
  have hlast : lastFailure.toNat = 0xffffffff := rfl
  refine decide_eq_false fun hless => ?_
  rw [UInt32.lt_iff_toNat_lt, hmax] at hless
  omega

theorem exhausted_lastFailure_eq_false_iff :
    p.exhausted lastFailure = false ↔ p.maxRetries = lastFailure := by
  constructor
  · intro h
    have hle : p.maxRetries ≤ lastFailure :=
      UInt32.le_iff_toNat_le.mpr (Nat.le_of_lt_succ p.maxRetries.toNat_lt)
    exact UInt32.le_antisymm hle (UInt32.not_lt.mp (of_decide_eq_false h))
  · exact fun h => not_exhausted_of_maxRetries h _

theorem respond_retried (hmax : p.maxRetries = lastFailure) (hp : p.IsOrdered)
    (he : e.isTerminal = false) (now : Nat) (hpolicy : l.backoff.policy = p)
    (hphase : l.phase = .polling) (hcount : l.failures ≠ lastFailure) :
    let l' := (l.respond (.receive (.error e) now)).1
    l'.backoff.policy = p ∧ l'.phase = .polling ∧ l'.failures.toNat = l.failures.toNat + 1 := by
  have hmore : l.backoff.policy.exhausted (l.failures + 1) = false := by
    rw [hpolicy]
    exact not_exhausted_of_maxRetries hmax _
  obtain ⟨delay, backoff, hnext⟩ := Backoff.Controller.nextDelay_ok (hpolicy ▸ hp)
  have hreceive := l.receive_retried hphase he hcount hmore hnext now
  have hstep := congrArg Turn.after (turn_receive hreceive)
  rw [show (l.respond (.receive (.error e) now)).1 = _ from hstep]
  exact ⟨(Backoff.Controller.nextDelay_policy hnext).trans hpolicy, rfl, toNat_succ hcount⟩

/-- Under such a policy every failure that can be counted is retried. -/
theorem after_failures (hmax : p.maxRetries = lastFailure) (hp : p.IsOrdered)
    (he : e.isTerminal = false) (now n : Nat) (hpolicy : l.backoff.policy = p)
    (hphase : l.phase = .polling) (hcount : l.failures.toNat + n ≤ lastFailure.toNat) :
    let l' := l.after (List.replicate n (.receive (.error e) now))
    l'.phase = .polling ∧ l'.failures.toNat = l.failures.toNat + n := by
  induction n generalizing l with
  | zero => exact ⟨hphase, rfl⟩
  | succ n ih =>
    have hne : l.failures ≠ lastFailure := by
      intro hlast
      rw [hlast] at hcount
      omega
    obtain ⟨hpolicy', hphase', hone⟩ := respond_retried hmax hp he now hpolicy hphase hne
    obtain ⟨hpolling, hall⟩ := ih hpolicy' hphase' (by omega)
    refine ⟨hpolling, hall.trans ?_⟩
    omega

/-- The failure after them breaks off. -/
theorem exists_broken (hmax : p.maxRetries = lastFailure) (hp : p.IsOrdered)
    (he : e.isTerminal = false) (now n : Nat) (hpolicy : l.backoff.policy = p)
    (hphase : l.phase = .polling) (hcount : l.failures.toNat + n = lastFailure.toNat) :
    ∃ t ∈ l.turns (List.replicate (n + 1) (.receive (.error e) now)),
      t.output = .broken .counterOverflow := by
  obtain ⟨hpolling, hall⟩ :=
    after_failures hmax hp he now n hpolicy hphase (Nat.le_of_eq hcount)
  have hlast := UInt32.toNat_inj.mp (hall.trans hcount)
  refine ⟨(l.after _).turn (.receive (.error e) now), ?_,
    congrArg Prod.snd (respond_overflowed hpolling he hlast now)⟩
  rw [List.replicate_succ', turns_concat]
  exact List.mem_append_right _ (.head _)

/-- Valid options that allow the most retries: when as many failures were taken as can be counted,
the next one breaks off. -/
theorem exists_broken_of_valid {o : Options} (hvalid : o.validate = .ok ())
    (hmax : o.backoff.maxRetries = lastFailure) (he : e.isTerminal = false) (now : Nat) :
    ∃ t ∈ (ofOptions o).turns
        (.start now :: List.replicate (lastFailure.toNat + 1) (.receive (.error e) now)),
      t.output = .broken .counterOverflow := by
  have hstart : ((ofOptions o).respond (.start now)).1 = (ofOptions o).enterPolling now := rfl
  rw [enterPolling_eq _ Phase.noConfusion] at hstart
  obtain ⟨t, ht, hbroken⟩ := exists_broken (l := ((ofOptions o).respond (.start now)).1) hmax
    (Options.accepted hvalid).1 he now lastFailure.toNat (by rw [hstart]; rfl) (by rw [hstart])
    (by rw [hstart]; exact Nat.zero_add _)
  exact ⟨t, .tail _ ht, hbroken⟩

/-! ## Any calls -/

/-- The call of a run that breaks off takes a failure after as many as can be counted. -/
theorem broken_iff_of_cut {o : Options} (hp : o.backoff.IsOrdered) {inputs : List Input}
    {pre post : List Turn} {t : Turn} (hcut : (ofOptions o).turns inputs = pre ++ t :: post)
    (fault : Fault) :
    t.output = .broken fault ↔
      fault = .counterOverflow ∧ t.fails = true ∧ Turn.setbacks pre = lastFailure.toNat := by
  obtain ⟨earlier, later, -, rfl, hlater⟩ := turns_cut _ hcut
  cases later with
  | nil => cases hlater
  | cons i later =>
    obtain ⟨rfl, -⟩ := List.cons.inj hlater
    have hpolicy := after_policy o earlier
    have hcount := tallied_or_over_turns hp (.inl (tallied_ofOptions hp)) earlier
    show (((ofOptions o).after earlier).respond i).2 = _ ↔ _
    rw [respond_broken_iff (hpolicy ▸ hp)]
    refine and_congr_right fun _ => and_congr_right fun hfails => ?_
    obtain ⟨-, -, -, hphase, -⟩ := turn_fails_iff.mp hfails
    rcases hcount with htallied | hover
    · rw [← UInt32.toNat_inj, htallied.failures]
      rfl
    · exact absurd hphase hover.ne_polling

/-- With a policy that has given up by then no call breaks off. -/
theorem ne_broken_of_mem {o : Options} (hp : o.backoff.IsOrdered)
    (hretries : o.backoff.maxRetries ≠ lastFailure) {inputs : List Input} {t : Turn}
    (ht : t ∈ (ofOptions o).turns inputs) (fault : Fault) : t.output ≠ .broken fault := by
  obtain ⟨earlier, hbefore, hrespond⟩ := mem_turns _ ht
  have hsound := sound_after hp hretries earlier
  rw [← hbefore] at hsound
  have hr := t.before.response t.input
  rw [hrespond] at hr
  exact (hsound.step hp hretries hr).2 fault

/-- Whatever is called, and in whatever order, with options that are valid: a call breaks off if and
only if it takes a failure after as many failures since the last success as there are numbers, and
what it lacks is the next number. No call of any run does so if and only if the policy has given up
by then, that is, unless it allows as many retries as there are numbers. Times are numbers here; by
a clock that ends, every deadline of a run is a time that the clock can show, as long as it has room
for the debounce after each attempt. -/
theorem breaks_off_iff (o : Options) (hvalid : o.validate = .ok ()) :
    (∀ inputs pre t post, (ofOptions o).turns inputs = pre ++ t :: post → ∀ fault,
      (t.output = .broken fault ↔
        fault = .counterOverflow ∧ t.fails = true ∧ Turn.setbacks pre = 0xffffffff)) ∧
    ((∀ inputs, ∀ t ∈ (ofOptions o).turns inputs, ∀ fault, t.output ≠ .broken fault) ↔
      o.backoff.exhausted 0xffffffff = true) ∧
    (o.backoff.exhausted 0xffffffff = false ↔ o.backoff.maxRetries = 0xffffffff) ∧
    ∀ last inputs, (∀ i ∈ inputs, ∀ now, (Touch.call i).attempt? = some now →
        now + o.health.debounceMs.toNat ≤ last) →
      ∀ t ∈ (ofOptions o).turns inputs, ∀ d, t.after.health.deadline = some d → d ≤ last := by
  have hp := (Options.accepted hvalid).1
  refine ⟨fun _ _ _ _ hcut => broken_iff_of_cut hp hcut, ?_, exhausted_lastFailure_eq_false_iff,
    fun last _ hroom t ht => ((inTime_ofOptions o last).turns hroom t ht).deadline_le⟩
  constructor
  · intro hnone
    by_contra hexhausted
    have hmost : o.backoff.maxRetries = lastFailure :=
      exhausted_lastFailure_eq_false_iff.mp (Bool.eq_false_iff.mpr hexhausted)
    obtain ⟨t, ht, hbroken⟩ :=
      exists_broken_of_valid (e := .transport "refused") hvalid hmost rfl 0
    exact hnone _ t ht _ hbroken
  · intro hexhausted inputs t ht
    refine ne_broken_of_mem hp (fun hmost => ?_) ht
    have hnever := exhausted_lastFailure_eq_false_iff.mpr hmost
    exact Bool.false_ne_true (hnever.symm.trans hexhausted)

/-- With the default options no call breaks off. -/
theorem breaks_off_iff_default :
    Options.default.validate = .ok () ∧
    ∀ inputs, ∀ t ∈ (ofOptions .default).turns inputs, ∀ fault, t.output ≠ .broken fault := by
  obtain ⟨-, hnone, -⟩ := breaks_off_iff .default rfl
  exact ⟨rfl, hnone.mpr rfl⟩

/-- Options that are valid and allow the most retries: a start, and one failure more than can be
counted. -/
theorem overflow_past_most_retries :
    let policy := Backoff.Policy.default.withMaxRetries 0xffffffff
    let o : Options := { Options.default with backoff := policy }
    o.validate = .ok () ∧ o.backoff.exhausted 0xffffffff = false ∧
    ∃ t ∈ (ofOptions o).turns
        (.start 0 :: List.replicate 0x100000000 (.receive (.error ⟨503, none⟩) 0)),
      t.output = .broken .counterOverflow := by
  intro policy o
  have hcount : 0x100000000 = lastFailure.toNat + 1 := rfl
  rw [hcount]
  exact ⟨rfl, rfl, exists_broken_of_valid rfl rfl rfl 0⟩

end Lifecycle

end RemoteConsole
