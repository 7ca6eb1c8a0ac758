import RemoteConsole.Proofs.Health.Reports
import RemoteConsole.Proofs.Lifecycle.Calls

/-!
# The debounce of the health signal

The signal goes up at a deadline, and a deadline was set by an attempt that has been pending for the
length of the debounce since.

* `Touch`, `Lifecycle.touch`: a call on a lifecycle, or a report to the monitor that it hands out.
* `Lifecycle.Tells`: what a touch reports to the monitor, if anything (`health_touch`).
* `Lifecycle.ArmedAt`: the deadline goes back to an attempt in the record. `Armed.touch`: every touch
  keeps to that.
* `Lifecycle.InTime`: the deadline is a time that the clock can show. `InTime.turns`: so it is in a
  run of calls at times that leave room for the debounce.
* `Lifecycle.signal_waits_for_debounce`: the length of the debounce that was asked for, and what the
  signal makes of it. `debounce_cut_off`: a length that 64 bits do not hold.
-/

namespace RemoteConsole

/-! ## Reports to a monitor -/

namespace Health.Monitor

variable (m : Monitor)

/-- Only a pending attempt sets a deadline, and only where none is set. -/
theorem deadline_take (report : Report) :
    (m.take report).1.deadline = none ∨ (m.take report).1.deadline = m.deadline ∨
      ∃ now, report = .pending now ∧ m.deadline = none ∧
        (m.take report).1.deadline = some (now + m.debounce) := by
  cases report with
  | pending now =>
    show (m.markPending now).deadline = none ∨ (m.markPending now).deadline = m.deadline ∨ _
    by_cases hon : m.isEnabled = true
    · have hmark := m.markPending_eq hon now
      cases hd : m.deadline with
      | some d => simp [hmark, hd]
      | none =>
        refine .inr (.inr ⟨now, rfl, rfl, ?_⟩)
        show (m.markPending now).deadline = _
        rw [hmark, hd]
        rfl
    · simp [markPending, hon]
  | healthy | disable => exact .inl rfl
  | fire now =>
    cases hdue : m.isDue now with
    | true => exact .inl (fire_deadline hdue)
    | false => exact .inr (.inl (congrArg (·.1.deadline) (m.fire_of_not_due hdue)))

/-- Only a deadline that has come makes the signal true. -/
theorem raised_take {report : Report} (hdown : m.isUnhealthy = false)
    (hup : (m.take report).1.isUnhealthy = true) :
    ∃ now d, report = .fire now ∧ m.deadline = some d ∧ d ≤ now := by
  cases report with
  | pending now =>
    have hkept : (m.markPending now).isUnhealthy = m.isUnhealthy :=
      congrArg Watch.value (m.unhealthy_markPending now)
    cases hdown.symm.trans (hkept.symm.trans hup)
  | healthy => cases m.isUnhealthy_markHealthy.symm.trans hup
  | disable => cases m.isUnhealthy_disable.symm.trans hup
  | fire now =>
    cases hdue : m.isDue now with
    | true =>
      obtain ⟨d, hd, hle⟩ := m.isDue_iff.mp hdue
      exact ⟨now, d, rfl, hd, hle⟩
    | false =>
      have hkept : (m.fire now).1.isUnhealthy = m.isUnhealthy :=
        congrArg (·.1.isUnhealthy) (m.fire_of_not_due hdue)
      cases hdown.symm.trans (hkept.symm.trans hup)

/-- Waiting leaves the monitor as if the deadline was looked at when the wait was over. -/
theorem await_state (now limit : Nat) :
    (m.await now limit).state = (m.fire (m.await now limit).now).1 := by
  unfold await expiry?
  cases hd : m.deadline with
  | none =>
    have hquiet : m.isDue (now + limit) = false := by
      unfold isDue
      rw [hd]
    exact (congrArg Prod.fst (m.fire_of_not_due hquiet)).symm
  | some d =>
    have hdue (t : Nat) : m.isDue t = decide (d ≤ t) := by
      unfold isDue
      rw [hd]
    simp only [Option.map_some]
    split
    · next hle =>
      cases hfire : m.fire (max now d) with
      | mk m' raised =>
        cases raised with
        | true => simp only [hfire]
        | false =>
          -- the deadline has come then, and it is the same deadline at the end of the time
          have hend : m.fire (now + limit) = m.fire (max now d) := by
            unfold fire
            rw [hdue, hdue, decide_eq_true (Nat.le_max_right now d),
              decide_eq_true (by omega : d ≤ now + limit)]
          simp only [hend, hfire]
    · next hlate =>
      have hquiet : m.isDue (now + limit) = false := by
        rw [hdue]
        exact decide_eq_false (by omega)
      exact (congrArg Prod.fst (m.fire_of_not_due hquiet)).symm

end Health.Monitor

/-! ## Touches -/

/-- What the owner of a lifecycle does with it: a call, or a report to its monitor. -/
inductive Touch where
  | call (input : Input)
  | report (report : Health.Report)

/-- The time since which an attempt is pending, if the touch reports one: a fetch begins or has
failed then, or the monitor is told so. -/
def Touch.attempt? : Touch → Option Nat
  | .call (.start now) => some now
  | .call (.receive (.error _) now) => some now
  | .call (.delivered .continue now) => some now
  | .report (.pending now) => some now
  | _ => none

namespace Lifecycle

variable (l : Lifecycle)

/-- Makes a call, or reports to the monitor. -/
def touch : Touch → Lifecycle × Output
  | .call i => l.respond i
  | .report r => ({ l with health := (l.health.take r).1 }, .waited (l.health.take r).2)

/-- The time at which the deadline is looked at, if it is: a wait does so when it is over. -/
def look? : Touch → Option Nat
  | .call (.awaitHealth now limit) => some (l.awaitHealth now limit).now
  | .report (.fire now) => some now
  | _ => none

/-- What a touch may report to the monitor. -/
inductive Tells : Touch → Health.Report → Prop
  | began {now : Nat} : Tells (.call (.start now)) (.pending now)
  | failed {e : FetchError} {now : Nat} : Tells (.call (.receive (.error e) now)) (.pending now)
  | succeeded {chunk : Option Chunk} {now : Nat} : Tells (.call (.receive (.ok chunk) now)) .healthy
  | continued {now : Nat} : Tells (.call (.delivered .continue now)) (.pending now)
  | closed {now : Nat} : Tells (.call (.delivered .stop now)) .disable
  | awaited {now limit : Nat} :
      Tells (.call (.awaitHealth now limit)) (.fire (l.awaitHealth now limit).now)
  | reported {report : Health.Report} : Tells (.report report) report

theorem respond_receive (outcome : Outcome) (now : Nat) :
    (l.respond (.receive outcome now)).1 = (l.receive outcome now).1 := by
  unfold respond
  dsimp only
  split <;> next h => rw [h]

/-- A failure that is heard is reported once it is to be retried. -/
theorem health_receiveError (e : FetchError) (now : Nat) (h : l.phase = .polling) :
    (l.receiveError e now).1.health = l.health ∨
      (l.receiveError e now).1.health = (l.health.take (.pending now)).1 := by
  have henter : (l.enter .backoff).health = l.health := by
    rw [enter_eq l (by rw [h]; decide)]
  have hfailed : l.failed.health = l.health := henter
  have hphase : l.failed.phase = .backoff := by
    rw [l.failed_eq h]
  cases ht : e.isTerminal with
  | true =>
    rw [l.receiveError_terminal ht]
    exact .inl henter
  | false =>
    by_cases hcount : (l.enter .backoff).failures = lastFailure
    · rw [l.receiveError_overflowed ht hcount]
      exact .inl henter
    · cases hmore : l.failed.backoff.policy.exhausted l.failed.failures with
      | true =>
        rw [l.receiveError_exhausted ht hcount hmore]
        exact .inl hfailed
      | false =>
        rw [l.receiveError_retry ht hcount hmore, ← hfailed]
        cases hnext : l.failed.backoff.nextDelay with
        | error fault =>
          rw [l.failed.retry_fault hnext]
          exact .inr rfl
        | ok next =>
          rw [l.failed.retry_eq hphase hnext]
          exact .inr rfl

/-- What a begun fetch has to say to the monitor is that an attempt is pending. -/
theorem armed_cases (now : Nat) :
    l.armed now = l.health ∨ l.armed now = (l.health.take (.pending now)).1 := by
  unfold armed
  split
  · exact .inr rfl
  · exact .inl rfl

/-- A touch leaves the monitor alone, or reports to it once. -/
theorem health_touch (t : Touch) :
    (l.touch t).1.health = l.health ∨
      ∃ r, l.Tells t r ∧ (l.touch t).1.health = (l.health.take r).1 := by
  cases t with
  | report r => exact .inr ⟨r, .reported, rfl⟩
  | call i =>
    have hresponse := l.response i
    show (l.respond i).1.health = l.health ∨
      ∃ r, l.Tells (.call i) r ∧ (l.respond i).1.health = (l.health.take r).1
    cases hrespond : l.respond i with
    | mk l' output =>
      rw [hrespond] at hresponse
      dsimp only at hresponse ⊢
      cases hresponse with
      | ignored | failedLast | asked => exact .inl rfl
      | started => exact (l.armed_cases _).imp_right fun h => ⟨_, .began, h⟩
      | continued => exact (l.armed_cases _).imp_right fun h => ⟨_, .continued, h⟩
      | brought => exact .inr ⟨_, .succeeded, rfl⟩
      | retried => exact .inr ⟨_, .failed, rfl⟩
      | closed => exact .inr ⟨_, .closed, rfl⟩
      | awaited => exact .inr ⟨_, .awaited, l.health.await_state _ _⟩
      | @broken e now _ _ hphase =>
        have hstate : l' = (l.receiveError e now).1 := by
          rw [← l.receive_error e now hphase, ← respond_receive, hrespond]
        rw [hstate]
        exact (l.health_receiveError e now hphase).imp_right fun h => ⟨_, .failed, h⟩

/-! ## The record of touches -/

/-- The deadline goes back to an attempt in the record. It is pending since `t`, nothing was pending
before it, and the deadline that it set, the debounce after `t`, has stood since. -/
def ArmedAt (debounce t : Nat) (past : List (Visit Lifecycle Touch Output)) : Prop :=
  ∃ earlier attempt later, past = earlier ++ attempt :: later ∧
    attempt.input.attempt? = some t ∧ attempt.before.health.deadline = none ∧
    ∀ v ∈ attempt :: later, v.after.health.deadline = some (t + debounce)

/-- A lifecycle with its debounce, whose deadline goes back to an attempt in the record. -/
structure Armed (debounce : Nat) (past : List (Visit Lifecycle Touch Output)) (l : Lifecycle) :
    Prop where
  debounce_eq : l.health.debounce = debounce
  deadline : ∀ d, l.health.deadline = some d → ∃ t, d = t + debounce ∧ ArmedAt debounce t past

variable {l} {debounce t : Nat} {past : List (Visit Lifecycle Touch Output)} {i : Touch}
  {r : Health.Report}

theorem Tells.attempt?_eq {now : Nat} (h : l.Tells i (.pending now)) : i.attempt? = some now := by
  cases h <;> rfl

theorem Tells.look?_eq {now : Nat} (h : l.Tells i (.fire now)) : l.look? i = some now := by
  cases h <;> rfl

/-- The deadline stands through one more touch. -/
theorem ArmedAt.concat (h : ArmedAt debounce t past) {v : Visit Lifecycle Touch Output}
    (hv : v.after.health.deadline = some (t + debounce)) : ArmedAt debounce t (past ++ [v]) := by
  obtain ⟨earlier, attempt, later, rfl, hattempt, hnone, hstood⟩ := h
  refine ⟨earlier, attempt, later ++ [v], ?_, hattempt, hnone, ?_⟩
  · rw [List.append_assoc]
    rfl
  · intro u hu
    rw [← List.cons_append, List.mem_append, List.mem_singleton] at hu
    rcases hu with hu | rfl
    · exact hstood u hu
    · exact hv

/-- Every touch keeps the deadline going back to an attempt. -/
theorem Armed.touch (h : Armed debounce past l) (i : Touch) :
    Armed debounce (past ++ [visit Lifecycle.touch l i]) (l.touch i).1 := by
  have hkept : (l.touch i).1.health.deadline = l.health.deadline →
      ∀ d, (l.touch i).1.health.deadline = some d →
        ∃ t, d = t + debounce ∧ ArmedAt debounce t (past ++ [visit Lifecycle.touch l i]) := by
    intro hsame d hd
    obtain ⟨t, rfl, ht⟩ := h.deadline d (hsame ▸ hd)
    exact ⟨t, rfl, ht.concat hd⟩
  rcases l.health_touch i with hsame | ⟨r, htells, hreport⟩
  · exact ⟨by rw [hsame, h.debounce_eq], hkept (by rw [hsame])⟩
  · refine ⟨by rw [hreport, l.health.debounce_take, h.debounce_eq], ?_⟩
    rcases l.health.deadline_take r with hgone | hsame | ⟨now, rfl, hnone, hset⟩
    · intro d hd
      rw [hreport, hgone] at hd
      cases hd
    · exact hkept (by rw [hreport, hsame])
    · intro d hd
      have hdeadline : (l.touch i).1.health.deadline = some (now + debounce) := by
        rw [hreport, hset, h.debounce_eq]
      obtain rfl := Option.some.inj (hdeadline.symm.trans hd)
      refine ⟨now, rfl, past, visit Lifecycle.touch l i, [], rfl, htells.attempt?_eq, hnone, ?_⟩
      intro v hv
      rw [List.mem_singleton.mp hv]
      exact hdeadline

theorem armed_ofOptions (o : Options) : Armed o.health.debounceMs.toNat [] (ofOptions o) where
  debounce_eq := rfl
  deadline d hd := by cases hd

theorem armed_stateAfter (o : Options) (touches : List Touch) :
    Armed o.health.debounceMs.toNat (visits Lifecycle.touch (ofOptions o) touches)
      (stateAfter Lifecycle.touch (ofOptions o) touches) :=
  visits_induction (P := fun past l => Armed o.health.debounceMs.toNat past l)
    (fun _ _ i h => h.touch i) (armed_ofOptions o) touches

/-- A touch that makes the signal true looked at a deadline that had come. -/
theorem raised_touch (hdown : l.health.isUnhealthy = false)
    (hup : (l.touch i).1.health.isUnhealthy = true) :
    ∃ now d, l.look? i = some now ∧ l.health.deadline = some d ∧ d ≤ now := by
  rcases l.health_touch i with hsame | ⟨r, htells, hreport⟩
  · rw [hsame] at hup
    cases hdown.symm.trans hup
  · rw [hreport] at hup
    obtain ⟨now, d, rfl, hd, hle⟩ := l.health.raised_take hdown hup
    exact ⟨now, d, htells.look?_eq, hd, hle⟩

/-! ## Deadlines on a clock that ends -/

/-- The deadline is a time that the clock can show. -/
structure InTime (last debounce : Nat) (l : Lifecycle) : Prop where
  debounce_eq : l.health.debounce = debounce
  deadline_le : ∀ d, l.health.deadline = some d → d ≤ last

/-- A call keeps the deadline so, if there is room for the debounce after the attempt that it
reports. -/
theorem InTime.respond {last : Nat} (h : l.InTime last debounce) {i : Input}
    (hroom : ∀ now, (Touch.call i).attempt? = some now → now + debounce ≤ last) :
    (l.respond i).1.InTime last debounce := by
  show (l.touch (.call i)).1.InTime last debounce
  rcases l.health_touch (.call i) with hsame | ⟨r, htells, hreport⟩
  · exact ⟨by rw [hsame, h.debounce_eq], by rw [hsame]; exact h.deadline_le⟩
  · refine ⟨by rw [hreport, l.health.debounce_take, h.debounce_eq], fun d hd => ?_⟩
    rw [hreport] at hd
    rcases l.health.deadline_take r with hgone | hkept | ⟨now, rfl, -, hset⟩
    · cases hgone.symm.trans hd
    · exact h.deadline_le d (hkept.symm.trans hd)
    · obtain rfl := Option.some.inj (hset.symm.trans hd)
      rw [h.debounce_eq]
      exact hroom now htells.attempt?_eq

theorem InTime.turns {last : Nat} (h : l.InTime last debounce) {inputs : List Input}
    (hroom : ∀ i ∈ inputs, ∀ now, (Touch.call i).attempt? = some now → now + debounce ≤ last) :
    ∀ t ∈ l.turns inputs, t.after.InTime last debounce := by
  induction inputs generalizing l with
  | nil => exact List.forall_mem_nil _
  | cons i inputs ih =>
    have hnext := h.respond (hroom i (.head _))
    exact List.forall_mem_cons.mpr ⟨hnext, ih hnext fun j hj => hroom j (.tail _ hj)⟩

theorem inTime_ofOptions (o : Options) (last : Nat) :
    (ofOptions o).InTime last o.health.debounceMs.toNat := ⟨rfl, nofun⟩

end Lifecycle

/-! ## The length of the debounce -/

/-- A debounce is kept in whole milliseconds, as far as the low 64 bits hold them. -/
theorem Options.debounceMs_withDebounce (o : Options) (seconds nanos : Nat) :
    (o.withDebounce seconds nanos).health.debounceMs.toNat =
      (seconds * 1000 + nanos / 10 ^ 6) % 2 ^ 64 :=
  UInt64.toNat_ofNat'

/-- The longer of two lengths has more whole milliseconds. -/
theorem wholeMillis_mono {seconds nanos seconds' nanos' : Nat}
    (h : seconds * 10 ^ 9 + nanos ≤ seconds' * 10 ^ 9 + nanos') :
    seconds * 1000 + nanos / 10 ^ 6 ≤ seconds' * 1000 + nanos' / 10 ^ 6 := by
  have hmillis (s n : Nat) : (s * 10 ^ 9 + n) / 10 ^ 6 = s * 1000 + n / 10 ^ 6 := by
    have hsplit : s * 10 ^ 9 + n = 10 ^ 6 * (s * 1000) + n := by omega
    rw [hsplit, Nat.mul_add_div (by decide)]
  rw [← hmillis, ← hmillis]
  exact Nat.div_le_div_right h

/-- Whatever the options, and whatever is done with a stream that has them, at whatever times: a
debounce of less than `2 ^ 64` milliseconds is kept in whole milliseconds, and a longer one in what
their low 64 bits hold. The signal goes up only when the deadline is looked at, and at no time
before the length that was kept has passed since the attempt that set the deadline. Of two debounces
below `2 ^ 64` milliseconds the shorter one is kept as the shorter one. -/
theorem Lifecycle.signal_waits_for_debounce (o : Options) (seconds nanos : Nat) :
    let ms := seconds * 1000 + nanos / 10 ^ 6
    let kept := (o.withDebounce seconds nanos).health.debounceMs.toNat
    kept = ms % 2 ^ 64 ∧ (ms < 2 ^ 64 → kept = ms) ∧
    (∀ touches pre v post,
      visits touch (ofOptions (o.withDebounce seconds nanos)) touches = pre ++ v :: post →
      v.before.health.isUnhealthy = false → v.after.health.isUnhealthy = true →
      ∃ t now, ArmedAt kept t pre ∧ v.before.look? v.input = some now ∧ t + kept ≤ now) ∧
    ∀ seconds' nanos', seconds * 10 ^ 9 + nanos ≤ seconds' * 10 ^ 9 + nanos' →
      seconds' * 1000 + nanos' / 10 ^ 6 < 2 ^ 64 →
      kept ≤ (o.withDebounce seconds' nanos').health.debounceMs.toNat := by
  intro ms kept
  have hkept : kept = ms % 2 ^ 64 := o.debounceMs_withDebounce seconds nanos
  refine ⟨hkept, fun hms => hkept.trans (Nat.mod_eq_of_lt hms), ?_, ?_⟩
  · intro touches pre v post hcut hdown hup
    obtain ⟨earlier, rfl, hv⟩ := visits_cut hcut
    rw [hv] at hdown hup ⊢
    have harmed := armed_stateAfter (o.withDebounce seconds nanos) earlier
    obtain ⟨now, d, hlook, hd, hle⟩ := raised_touch hdown hup
    obtain ⟨t, rfl, ht⟩ := harmed.deadline d hd
    exact ⟨t, now, ht, hlook, hle⟩
  · intro seconds' nanos' hle hms'
    rw [hkept, o.debounceMs_withDebounce seconds' nanos', Nat.mod_eq_of_lt hms']
    exact (Nat.mod_le _ _).trans (wholeMillis_mono hle)

/-- A failure at 5, looked at until 2005: the signal goes up a second after the failure. -/
theorem Lifecycle.signal_waits_for_debounce_brief :
    let touches : List Touch :=
      [.call (.start 0), .call (.receive (.error ⟨503, none⟩) 5), .call (.awaitHealth 5 2000)]
    ∃ pre v, visits touch (ofOptions (Options.default.withDebounce 1 0)) touches = pre ++ [v] ∧
      v.before.health.isUnhealthy = false ∧ v.after.health.isUnhealthy = true ∧
      ∃ t now, ArmedAt 1000 t pre ∧ v.before.look? v.input = some now ∧ t + 1000 ≤ now := by
  intro touches
  obtain ⟨-, hkept, hsignal, -⟩ := signal_waits_for_debounce .default 1 0
  have hsecond := hkept (by decide)
  rw [hsecond] at hsignal
  have hcut : visits touch (ofOptions (Options.default.withDebounce 1 0)) touches = [_, _] ++ [_] :=
    rfl
  have hdown : ((ofOptions (Options.default.withDebounce 1 0)).after
      [.start 0, .receive (.error ⟨503, none⟩) 5]).health.isUnhealthy = false := by decide
  have hup : ((ofOptions (Options.default.withDebounce 1 0)).after
      [.start 0, .receive (.error ⟨503, none⟩) 5, .awaitHealth 5 2000]).health.isUnhealthy = true :=
    by decide
  exact ⟨_, _, hcut, hdown, hup, hsignal touches _ _ [] hcut hdown hup⟩

/-- Of two debounces the shorter one, of `2 ^ 64 - 1` milliseconds, is kept as it is, and the longer
one, of a millisecond more, as none at all: the signal goes up at the time of the attempt. -/
theorem Lifecycle.debounce_cut_off :
    let shorter := Options.default.withDebounce 18446744073709551 615000000
    let longer := (Options.default.withArming .onEveryPoll).withDebounce 18446744073709551 616000000
    shorter.health.debounceMs.toNat = 2 ^ 64 - 1 ∧ longer.health.debounceMs.toNat = 0 ∧
    ∃ v ∈ visits touch (ofOptions longer) [.call (.start 0), .call (.awaitHealth 0 0)],
      v.before.health.isUnhealthy = false ∧ v.after.health.isUnhealthy = true ∧
        v.before.look? v.input = some 0 := by
  refine ⟨by decide, by decide, _, List.mem_cons_of_mem _ (List.mem_singleton_self _), ?_⟩
  decide

end RemoteConsole
