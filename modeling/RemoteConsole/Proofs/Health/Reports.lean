import Mathlib.Data.List.DropRight
import RemoteConsole.Proofs.Health.Expiry
import RemoteConsole.Proofs.Visits

/-!
# The health signal and what was reported

The state of a monitor is read off the reports that it was given, in any order and with any times.

* `Report`, `Monitor.take`: what a monitor is told, and the telling. `Monitor.tell`: the telling by a
  clock that ends; a report breaks off if it lacks a time for its deadline, and then the monitor is
  as before (`tell_outrun`, `tell_eq`).
* `Receipt.isDue`: the report applied a deadline that had come.
* `Receipt.sinceHealthy`, `Receipt.sinceSettled`: the reports after the latest success, and those
  after the latest success or deadline. `Receipt.pendingSince?`: the first pending attempt among
  these.
* `Monitor.IsOn`: the state of a monitor that is not disabled, as the reports have it. Every report
  but the one that disables it keeps it so (`IsOn.tell`), and once it is disabled it stays off
  (`IsOff.take`).
* `Receipt.Answers`: what a report answers, whether watchers are told of it, and when it breaks off.
* `Monitor.signal_of_reports`: all of it for any reports, and how a wait for the signal ends then.
-/

namespace RemoteConsole.Health

/-- What a monitor is told: an attempt is pending since a time, an attempt succeeded, the signal is
of no interest any more, or the deadline is to be applied if it has come by a time. -/
inductive Report where
  | pending (now : Nat)
  | healthy
  | disable
  | fire (now : Nat)
deriving DecidableEq, Repr

/-- Tells a monitor. The answer says whether the signal became true by it. -/
def Monitor.take (m : Monitor) : Report → Monitor × Bool
  | .pending now => (m.markPending now, false)
  | .healthy => (m.markHealthy, false)
  | .disable => (m.disable, false)
  | .fire now => m.fire now

/-- Tells a monitor, by a clock whose last time is `last`. The answer says whether the signal became
true by it, unless the telling broke off. -/
def Monitor.tell (last : Nat) (m : Monitor) : Report → Monitor × Except Fault Bool
  | .pending now =>
    match m.markPending? last now with
    | .ok m' => (m', .ok false)
    | .error fault => (m, .error fault)
  | .healthy => (m.markHealthy, .ok false)
  | .disable => (m.disable, .ok false)
  | .fire now => (m.fire now).map id .ok

/-- A report that a monitor was given. -/
abbrev Receipt := Visit Monitor Report (Except Fault Bool)

namespace Receipt

/-- The report applied a deadline that had come. -/
def isDue (r : Receipt) : Bool :=
  match r.input with
  | .fire now => r.before.isDue now
  | .pending _ => false
  | .healthy => false
  | .disable => false

/-- The time since which an attempt is pending by the report, which did not break off. -/
def since? (r : Receipt) : Option Nat :=
  match r.input, r.output with
  | .pending now, .ok _ => some now
  | _, _ => none

/-- Nothing is pending after the report: an attempt succeeded, or the deadline had come. -/
def settles (r : Receipt) : Bool := r.input = .healthy || isDue r

/-- The reports after the latest success. -/
def sinceHealthy (rs : List Receipt) : List Receipt := rs.rtakeWhile fun r => r.input ≠ .healthy

/-- The reports after the latest success or the latest deadline that had come. -/
def sinceSettled (rs : List Receipt) : List Receipt := rs.rtakeWhile fun r => !settles r

/-- The time since which the first of the attempts is pending that no success and no deadline
followed. -/
def pendingSince? (rs : List Receipt) : Option Nat := (sinceSettled rs).findSome? since?

variable {rs : List Receipt} {r : Receipt}

theorem sinceHealthy_of_healthy (h : r.input = .healthy) : sinceHealthy (rs ++ [r]) = [] :=
  List.rtakeWhile_concat_neg _ _ _ (by simp [h])

theorem sinceHealthy_concat (h : r.input ≠ .healthy) :
    sinceHealthy (rs ++ [r]) = sinceHealthy rs ++ [r] :=
  List.rtakeWhile_concat_pos _ _ _ (by simp [h])

theorem pendingSince?_of_settles (h : settles r = true) : pendingSince? (rs ++ [r]) = none := by
  unfold pendingSince? sinceSettled
  rw [List.rtakeWhile_concat_neg _ _ _ (by simp [h])]
  rfl

theorem pendingSince?_concat (h : settles r = false) :
    pendingSince? (rs ++ [r]) = (pendingSince? rs).or (since? r) := by
  unfold pendingSince? sinceSettled
  rw [List.rtakeWhile_concat_pos _ _ _ (by simp [h]), List.findSome?_append]
  congr 1
  simp

theorem isDue_iff : isDue r = true ↔
    ∃ now d, r.input = .fire now ∧ r.before.deadline = some d ∧ d ≤ now := by
  unfold isDue
  cases h : r.input with
  | fire now => simp [Monitor.isDue_iff]
  | pending | healthy | disable => simp

theorem exists_isDue_concat : (∃ r' ∈ rs ++ [r], isDue r' = true) ↔
    (∃ r' ∈ rs, isDue r' = true) ∨ isDue r = true := by
  simp [or_and_right, exists_or]

/-- The report breaks off if the clock has no time for the deadline that it would set, and changes
nothing then. It answers true if a deadline had come and the signal was not true before; those who
watch the signal are told if and only if its value is another one. -/
structure Answers (last debounce : Nat) (r : Receipt) : Prop where
  broken : ∀ fault, r.output = .error fault ↔ fault = .clockOverflow ∧
    ∃ now, r.input = .pending now ∧ r.before.isEnabled = true ∧ r.before.deadline = none ∧
      last < now + debounce
  kept : ∀ fault, r.output = .error fault → r.after = r.before
  raised : r.output = .ok true ↔ isDue r = true ∧ r.before.isUnhealthy = false
  version : r.after.unhealthy.version =
    r.before.unhealthy.version + if r.after.isUnhealthy = r.before.isUnhealthy then 0 else 1

end Receipt

namespace Monitor

/-! ## One report -/

theorem outruns_iff {m : Monitor} {last now : Nat} : m.outruns last now = true ↔
    m.isEnabled = true ∧ m.deadline = none ∧ last < now + m.debounce := by
  simp [outruns, and_assoc]

/-- Without a time for its deadline a pending attempt changes nothing. -/
theorem tell_outrun {m : Monitor} {last now : Nat} (h : m.outruns last now = true) :
    m.tell last (.pending now) = (m, .error .clockOverflow) := by
  simp only [tell, markPending?, h, ↓reduceIte]

/-- As long as the clock does not end, a monitor takes what it is told. -/
theorem tell_eq {m : Monitor} {last : Nat} {report : Report}
    (h : ∀ now, report = .pending now → m.outruns last now = false) :
    m.tell last report = ((m.take report).1, .ok (m.take report).2) := by
  cases report with
  | pending now => simp [tell, take, markPending?, h now rfl]
  | healthy | disable | fire => rfl

/-- The reports of a monitor that was not disabled tell its state. -/
structure IsOn (debounce : Nat) (past : List Receipt) (m : Monitor) : Prop where
  isEnabled : m.isEnabled = true
  deadline : m.deadline = (Receipt.pendingSince? past).map (· + debounce)
  isUnhealthy : m.isUnhealthy = true ↔ ∃ r ∈ Receipt.sinceHealthy past, Receipt.isDue r = true

variable {last debounce : Nat} {past : List Receipt} {m : Monitor}

theorem isOn_ofDebounce (debounce : Nat) : (ofDebounce debounce).IsOn debounce [] where
  isEnabled := rfl
  deadline := rfl
  isUnhealthy := iff_of_false Bool.false_ne_true fun ⟨_, hr, _⟩ => List.not_mem_nil hr

/-- Once a monitor is off, no report turns it on. -/
theorem IsOff.take (h : m.IsOff) (report : Report) : (m.take report).1.IsOff := by
  cases report with
  | pending now =>
    have hpending : m.markPending now = { m with deadline := none } := by
      unfold markPending
      rw [if_neg (by rw [h.disabled]; decide)]
    show (m.markPending now).IsOff
    rw [hpending]
    exact ⟨h.disabled, rfl, h.healthy⟩
  | healthy => exact ⟨h.disabled, rfl, m.isUnhealthy_markHealthy⟩
  | disable => exact m.isOff_disable
  | fire now =>
    have hdue : m.isDue now = false := by
      unfold isDue
      rw [h.calm]
    show (m.fire now).1.IsOff
    rw [fire_of_not_due m hdue]
    exact h

/-- A report by which nothing is pending, and nothing was due, leaves the monitor as the reports
before it have it. -/
theorem IsOn.unmoved (h : m.IsOn debounce past) {r : Receipt} (hne : r.input ≠ .healthy)
    (hdue : Receipt.isDue r = false) (hsince : Receipt.since? r = none) :
    m.IsOn debounce (past ++ [r]) := by
  have hsettles : Receipt.settles r = false := by simp [Receipt.settles, hne, hdue]
  refine ⟨h.isEnabled, ?_, ?_⟩
  · rw [Receipt.pendingSince?_concat hsettles, hsince, Option.or_none, h.deadline]
  · rw [Receipt.sinceHealthy_concat hne, Receipt.exists_isDue_concat, hdue]
    exact h.isUnhealthy.trans (or_iff_left Bool.false_ne_true).symm

/-- A report that does not disable the monitor keeps its state as the reports have it. -/
theorem IsOn.tell (h : m.IsOn debounce past) (hdebounce : m.debounce = debounce) {report : Report}
    (hne : report ≠ .disable) :
    (m.tell last report).1.IsOn debounce (past ++ [visit (Monitor.tell last) m report]) := by
  cases report with
  | disable => exact absurd rfl hne
  | pending now =>
    let r := visit (Monitor.tell last) m (.pending now)
    cases hout : m.outruns last now with
    | true =>
      have hsince : Receipt.since? r = none := by
        simp [r, Receipt.since?, visit, tell_outrun hout]
      rw [tell_outrun hout]
      exact h.unmoved Report.noConfusion rfl hsince
    | false =>
      have htell : m.tell last (.pending now) = (m.markPending now, .ok false) :=
        tell_eq fun _ hnow => Report.pending.inj hnow ▸ hout
      have hsince : Receipt.since? r = some now := by simp [r, Receipt.since?, visit, htell]
      have hhealthy : Receipt.sinceHealthy (past ++ [r]) = Receipt.sinceHealthy past ++ [r] :=
        Receipt.sinceHealthy_concat Report.noConfusion
      show (m.tell last (.pending now)).1.IsOn debounce (past ++ [r])
      rw [htell, m.markPending_eq h.isEnabled now]
      refine ⟨h.isEnabled, ?_, ?_⟩
      · show m.deadline.or (some (now + m.debounce)) = _
        rw [Receipt.pendingSince?_concat rfl, hsince, h.deadline, hdebounce]
        cases Receipt.pendingSince? past <;> rfl
      · rw [hhealthy, Receipt.exists_isDue_concat]
        exact h.isUnhealthy.trans (or_iff_left Bool.false_ne_true).symm
  | healthy =>
    let r := visit (Monitor.tell last) m .healthy
    have hsince : Receipt.pendingSince? (past ++ [r]) = none := Receipt.pendingSince?_of_settles rfl
    have hhealthy : Receipt.sinceHealthy (past ++ [r]) = [] := Receipt.sinceHealthy_of_healthy rfl
    refine ⟨h.isEnabled, by rw [hsince]; rfl, ?_⟩
    have hdown : (m.tell last .healthy).1.isUnhealthy = false := m.isUnhealthy_markHealthy
    simp [r, hhealthy, hdown]
  | fire now =>
    let r := visit (Monitor.tell last) m (.fire now)
    show (m.fire now).1.IsOn debounce (past ++ [r])
    cases hdue : m.isDue now with
    | true =>
      -- the deadline has come: it is gone, and the signal is true
      have hsince : Receipt.pendingSince? (past ++ [r]) = none :=
        Receipt.pendingSince?_of_settles hdue
      have hup := isUnhealthy_set { m with deadline := none } true
      rw [m.fire_eq h.isEnabled hdue]
      refine ⟨h.isEnabled, by rw [hsince]; rfl, ?_⟩
      rw [Receipt.sinceHealthy_concat Report.noConfusion, Receipt.exists_isDue_concat]
      exact iff_of_true hup (.inr hdue)
    | false =>
      rw [fire_of_not_due m hdue]
      exact h.unmoved Report.noConfusion hdue rfl

theorem debounce_take (m : Monitor) (report : Report) :
    (m.take report).1.debounce = m.debounce := by
  cases report with
  | pending now =>
    show (m.markPending now).debounce = m.debounce
    unfold markPending
    split
    · split <;> rfl
    · rfl
  | healthy | disable => rfl
  | fire now =>
    show (m.fire now).1.debounce = m.debounce
    unfold fire
    split
    · split <;> rfl
    · rfl

/-- A report leaves the signal alone, or gives it a value. -/
theorem unhealthy_take (m : Monitor) (report : Report) :
    (m.take report).1.unhealthy = m.unhealthy ∨
      ∃ u, (m.take report).1.unhealthy = m.unhealthy.update u := by
  cases report with
  | pending now => exact .inl (m.unhealthy_markPending now)
  | healthy | disable => exact .inr ⟨false, rfl⟩
  | fire now =>
    cases hdue : m.isDue now with
    | false => exact .inl (congrArg (·.1.unhealthy) (m.fire_of_not_due hdue))
    | true =>
      simp only [take, fire, hdue, ↓reduceIte]
      split
      · exact .inr ⟨true, rfl⟩
      · exact .inl rfl

/-- Watchers of the signal are told if and only if its value is another one. -/
theorem version_take (m : Monitor) (report : Report) :
    (m.take report).1.unhealthy.version = m.unhealthy.version +
      if (m.take report).1.isUnhealthy = m.isUnhealthy then 0 else 1 := by
  unfold isUnhealthy
  rcases m.unhealthy_take report with h | ⟨u, h⟩
  · rw [h, if_pos rfl]
    rfl
  · rw [h]
    exact m.unhealthy.version_update u

/-- A report is taken, or it lacks a time for its deadline and changes nothing. -/
theorem tell_cases (last : Nat) (m : Monitor) (report : Report) :
    (m.tell last report = ((m.take report).1, .ok (m.take report).2) ∧
      ∀ now, report = .pending now → m.outruns last now = false) ∨
    ∃ now, report = .pending now ∧ m.outruns last now = true ∧
      m.tell last report = (m, .error .clockOverflow) := by
  by_cases h : ∃ now, report = .pending now ∧ m.outruns last now = true
  · obtain ⟨now, rfl, hout⟩ := h
    exact .inr ⟨now, rfl, hout, tell_outrun hout⟩
  · have hnot : ∀ now, report = .pending now → m.outruns last now = false := fun now hnow =>
      Bool.eq_false_iff.mpr fun hout => h ⟨now, hnow, hout⟩
    exact .inl ⟨tell_eq hnot, hnot⟩

/-- What is pending is pending on a monitor that is not disabled. -/
theorem raised_take_iff (h : m.deadline.isSome → m.isEnabled = true) (report : Report) :
    (m.take report).2 = true ↔
      Receipt.isDue (visit (Monitor.tell last) m report) = true ∧ m.isUnhealthy = false := by
  cases report with
  | pending | healthy | disable => simp [visit, take, Receipt.isDue]
  | fire now =>
    show (m.fire now).2 = true ↔ m.isDue now = true ∧ m.isUnhealthy = false
    cases hdue : m.isDue now with
    | false => simp [m.fire_of_not_due hdue]
    | true =>
      obtain ⟨d, hd, -⟩ := m.isDue_iff.mp hdue
      simp [m.fire_eq (h (by rw [hd]; rfl)) hdue]

theorem answers_tell (h : m.deadline.isSome → m.isEnabled = true)
    (hdebounce : m.debounce = debounce) (report : Report) :
    Receipt.Answers last debounce (visit (Monitor.tell last) m report) := by
  have hbroken : (∃ now, report = .pending now ∧ m.outruns last now = true) ↔
      ∃ now, report = .pending now ∧ m.isEnabled = true ∧ m.deadline = none ∧
        last < now + debounce := by
    simp only [outruns_iff, hdebounce]
  rcases m.tell_cases last report with ⟨htell, hnot⟩ | ⟨now, rfl, hout, htell⟩
  · have houtput : (visit (Monitor.tell last) m report).output = .ok (m.take report).2 :=
      congrArg Prod.snd htell
    refine ⟨fun fault => ?_, fun fault hfault => ?_, ?_, ?_⟩
    · rw [houtput]
      refine iff_of_false nofun fun ⟨_, hlacks⟩ => ?_
      obtain ⟨now, hnow, hout⟩ := hbroken.mpr hlacks
      exact Bool.false_ne_true ((hnot now hnow).symm.trans hout)
    · rw [houtput] at hfault
      cases hfault
    · rw [houtput, Except.ok.injEq]
      exact raised_take_iff h report
    · have hafter : (visit (Monitor.tell last) m report).after = (m.take report).1 :=
        congrArg Prod.fst htell
      rw [hafter]
      exact m.version_take report
  · have houtput : (visit (Monitor.tell last) m (.pending now)).output = .error .clockOverflow :=
      congrArg Prod.snd htell
    have hafter : (visit (Monitor.tell last) m (.pending now)).after = m := congrArg Prod.fst htell
    refine ⟨fun fault => ?_, fun _ _ => hafter, ?_, ?_⟩
    · rw [houtput, Except.error.injEq]
      exact ⟨fun hfault => ⟨hfault.symm, hbroken.mp ⟨now, rfl, hout⟩⟩, fun hfault => hfault.1.symm⟩
    · rw [houtput]
      exact iff_of_false nofun fun hdue => Bool.false_ne_true hdue.1
    · rw [hafter]
      exact (if_pos rfl).symm ▸ rfl

/-! ## Any reports -/

/-- The state of a monitor and the reports that it was given so far: it is off if one of them
disabled it, and as they have it otherwise. -/
structure Reflects (last debounce : Nat) (past : List Receipt) (m : Monitor) : Prop where
  debounce_eq : m.debounce = debounce
  off : .disable ∈ past.map Visit.input → m.IsOff
  on : .disable ∉ past.map Visit.input → m.IsOn debounce past
  answers : ∀ r ∈ past, r.Answers last debounce

namespace Reflects

theorem isEnabled (h : m.Reflects last debounce past) (hd : m.deadline.isSome) :
    m.isEnabled = true := by
  by_cases hmem : .disable ∈ past.map Visit.input
  · rw [(h.off hmem).calm] at hd
    cases hd
  · exact (h.on hmem).isEnabled

theorem tell (h : m.Reflects last debounce past) (report : Report) :
    (m.tell last report).1.Reflects last debounce
      (past ++ [visit (Monitor.tell last) m report]) := by
  have hanswers : Receipt.Answers last debounce (visit (Monitor.tell last) m report) :=
    answers_tell h.isEnabled h.debounce_eq report
  have hinputs : (past ++ [visit (Monitor.tell last) m report]).map Visit.input =
      past.map Visit.input ++ [report] := List.map_append
  refine ⟨?_, fun hmem => ?_, fun hmem => ?_, ?_⟩
  · rcases m.tell_cases last report with ⟨htell, -⟩ | ⟨now, -, -, htell⟩ <;> rw [htell]
    · exact (m.debounce_take report).trans h.debounce_eq
    · exact h.debounce_eq
  · rw [hinputs, List.mem_append, List.mem_singleton] at hmem
    rcases hmem with hmem | rfl
    · rcases m.tell_cases last report with ⟨htell, -⟩ | ⟨now, -, -, htell⟩ <;> rw [htell]
      · exact (h.off hmem).take report
      · exact h.off hmem
    · exact m.isOff_disable
  · rw [hinputs, List.mem_append, List.mem_singleton, not_or] at hmem
    exact (h.on hmem.1).tell h.debounce_eq (Ne.symm hmem.2)
  · intro r hr
    rcases List.mem_append.mp hr with hr | hr
    · exact h.answers r hr
    · rw [List.mem_singleton.mp hr]
      exact hanswers

end Reflects

theorem reflects_ofDebounce (last debounce : Nat) :
    (ofDebounce debounce).Reflects last debounce [] where
  debounce_eq := rfl
  off h := absurd h List.not_mem_nil
  on _ := isOn_ofDebounce debounce
  answers := List.forall_mem_nil _

/-- After any reports a monitor is as they have it. -/
theorem reflects_stateAfter (last debounce : Nat) (reports : List Report) :
    (stateAfter (Monitor.tell last) (ofDebounce debounce) reports).Reflects last debounce
      (visits (Monitor.tell last) (ofDebounce debounce) reports) :=
  visits_induction (P := fun past (m : Monitor) => m.Reflects last debounce past)
    (fun _ _ report h => h.tell report) (reflects_ofDebounce last debounce) reports

/-- Whatever is reported, in any order and with any times, by a clock with any last time. Once a
monitor is disabled it is off. Until then its deadline is the debounce after the first pending
attempt that no success and no deadline followed, and the signal is true if and only if a deadline
came after the latest success. A report breaks off if and only if it would set a deadline that the
clock cannot show, and then it changes nothing; none does where the clock has room for the debounce
after each attempt. A report answers true if and only if it applied a deadline that had come while
the signal was not true, and those who watch the signal are told of every change and of nothing
else. A wait for the signal begins two rounds at most; it ends if and only if a deadline is pending
and the signal is not true, at the deadline or at once if that is past, and leaves the signal
true. -/
theorem signal_of_reports (last debounce : Nat) (reports : List Report) :
    let rs := visits (Monitor.tell last) (ofDebounce debounce) reports
    let m := stateAfter (Monitor.tell last) (ofDebounce debounce) reports
    (.disable ∈ reports → m.IsOff) ∧
    (.disable ∉ reports → m.deadline = (Receipt.pendingSince? rs).map (· + debounce)) ∧
    (m.isUnhealthy = true ↔
      .disable ∉ reports ∧ ∃ r ∈ Receipt.sinceHealthy rs, Receipt.isDue r = true) ∧
    (∀ r ∈ rs,
      (∀ fault, r.output = .error fault ↔ fault = .clockOverflow ∧
        ∃ now, r.input = .pending now ∧ r.before.isEnabled = true ∧ r.before.deadline = none ∧
          last < now + debounce) ∧
      (∀ fault, r.output = .error fault → r.after = r.before) ∧
      (Receipt.isDue r = true ↔
        ∃ now d, r.input = .fire now ∧ r.before.deadline = some d ∧ d ≤ now) ∧
      (r.output = .ok true ↔ Receipt.isDue r = true ∧ r.before.isUnhealthy = false) ∧
      r.after.unhealthy.version =
        r.before.unhealthy.version +
          if r.after.isUnhealthy = r.before.isUnhealthy then 0 else 1) ∧
    ((∀ now, .pending now ∈ reports → now + debounce ≤ last) →
      ∀ r ∈ rs, ∃ raised, r.output = .ok raised) ∧
    ∀ now, (∃ rounds ending, m.Waits now rounds ending) ∧
      ∀ rounds ending, m.Waits now rounds ending →
        rounds ≤ 2 ∧
        (ending.isSome = true ↔ m.deadline.isSome = true ∧ m.isUnhealthy = false) ∧
        (∀ w, ending = some w →
          (∃ d, m.deadline = some d ∧ w.now = max now d) ∧ w.state.isUnhealthy = true) ∧
        ∀ limit w, m.await now limit = w ∧ w.raised = true ↔
          ending = some w ∧ w.now ≤ now + limit := by
  intro rs m
  have h : m.Reflects last debounce rs := reflects_stateAfter last debounce reports
  have hinputs : rs.map Visit.input = reports := map_input_visits _ reports
  have hoff := h.off
  have hon := h.on
  rw [hinputs] at hoff hon
  refine ⟨hoff, fun hmem => (hon hmem).deadline, ?_, ?_, fun hroom r hr => ?_, ?_⟩
  · by_cases hmem : .disable ∈ reports
    · simp [hmem, (hoff hmem).healthy]
    · simp [hmem, (hon hmem).isUnhealthy]
  · intro r hr
    have hanswers := h.answers r hr
    exact ⟨hanswers.broken, hanswers.kept, Receipt.isDue_iff, hanswers.raised, hanswers.version⟩
  · cases houtput : r.output with
    | ok raised => exact ⟨raised, rfl⟩
    | error fault =>
      obtain ⟨-, now, hnow, -, -, hlate⟩ := ((h.answers r hr).broken fault).mp houtput
      have hmem : .pending now ∈ reports := hinputs ▸ hnow ▸ List.mem_map_of_mem hr
      exact absurd (hroom now hmem) (Nat.not_le.mpr hlate)
  · intro now
    refine ⟨m.exists_waits now, fun rounds ending hwaits => ?_⟩
    exact ⟨hwaits.rounds_le, hwaits.ends_iff h.isEnabled, fun w => hwaits.ends_at h.isEnabled,
      hwaits.await_iff⟩

/-- Times that go back, a deadline that comes while the signal is true, and a wait that therefore
falls asleep in its second round; turned off, the monitor has nothing to say. Where seconds are
counted in 63 bits, the longest debounce that can be given to a monitor has no deadline at all. -/
theorem signal_of_reports_brief :
    let last := 9223372036854775807999
    let longest := 18446744073709551615999
    let reports : List Report :=
      [.pending 10, .fire 5, .pending 3, .fire 1010, .pending 1020, .pending 7]
    let m := stateAfter (Monitor.tell last) (ofDebounce 1000) reports
    m.deadline = some 2020 ∧ m.isUnhealthy = true ∧
      (∀ rounds ending, m.Waits 1500 rounds ending → ending.isSome = false) ∧
      (stateAfter (Monitor.tell last) (ofDebounce 1000) (reports ++ [.disable, .pending 0])).IsOff ∧
      ∃ r ∈ visits (Monitor.tell last) (ofDebounce longest) [.pending 10],
        r.output = .error .clockOverflow ∧ r.after = r.before := by
  intro last longest reports m
  obtain ⟨-, hdeadline, hsignal, -, -, hwait⟩ := signal_of_reports last 1000 reports
  obtain ⟨hoff, -⟩ := signal_of_reports last 1000 (reports ++ [.disable, .pending 0])
  obtain ⟨-, -, -, hanswers, -⟩ := signal_of_reports last longest [.pending 10]
  have hup : m.isUnhealthy = true := hsignal.mpr (by decide)
  obtain ⟨hbroken, hkept, -⟩ := hanswers _ (List.mem_singleton_self _)
  have hfault := (hbroken .clockOverflow).mpr ⟨rfl, 10, rfl, rfl, rfl, by decide⟩
  refine ⟨hdeadline (by decide), hup, fun rounds ending hwaits => ?_, hoff (by decide), _,
    List.mem_singleton_self _, hfault, hkept _ hfault⟩
  rw [Bool.eq_false_iff, ne_eq, ((hwait 1500).2 rounds ending hwaits).2.1, hup]
  exact fun h => by cases h.2

end Monitor

end RemoteConsole.Health
