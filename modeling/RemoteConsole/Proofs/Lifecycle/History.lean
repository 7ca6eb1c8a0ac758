import RemoteConsole.Proofs.Lifecycle.Setback

/-!
# The history of a lifecycle

Whatever calls are made, in turn or out of turn, the events tell one story.

* `Phase.successors`, `Route`: the changes of phase that there are, and those that lead from a phase
  to another.
* `Story p es`: the events `es` are those of a stream that has come to the phase `p`; all that is
  said about events is read off it.
* `Lifecycle.Sound`, `Sound.step`: the invariant of all calls, and that each call keeps it.
* `Lifecycle.history`: the events of any calls are in order, and nothing happens after the last.
-/

namespace RemoteConsole

/-- The phases that follow a phase. -/
def Phase.successors : Phase → List Phase
  | .idle => [.polling]
  | .polling => [.delivering, .backoff, .closed]
  | .delivering => [.polling, .closed]
  | .backoff => [.polling, .closed]
  | .closed => []

/-- The changes lead from a phase to another, each to a phase that follows the one before. -/
def Route : Phase → List (Phase × Phase) → Phase → Prop
  | p, [], q => p = q
  | p, (source, target) :: rest, q => source = p ∧ target ∈ p.successors ∧ Route target rest q

/-- The changes of phase among events. -/
def Event.route (es : List Event) : List (Phase × Phase) :=
  es.filterMap fun
    | .phaseChanged source target => some (source, target)
    | _ => none

/-- The answer of a closed stream. -/
def Input.refusal (i : Input) (reason : CloseReason) : Output :=
  match i with
  | .awaitHealth _ _ => .waited false
  | _ => .command (.close reason)

theorem Route.snoc {p q r : Phase} {cs : List (Phase × Phase)} (h : Route p cs q)
    (hr : r ∈ q.successors) : Route p (cs ++ [(q, r)]) r := by
  induction cs generalizing p with
  | nil =>
    cases h
    exact ⟨rfl, hr, rfl⟩
  | cons c cs ih => exact ⟨h.1, h.2.1, ih h.2.2⟩

theorem Event.route_append (es fs : List Event) : route (es ++ fs) = route es ++ route fs :=
  List.filterMap_append

/-! ## Stories -/

/-- The events of a stream that has come to a phase. -/
inductive Story : Phase → List Event → Prop
  | idle : Story .idle []
  | signalled {p : Phase} {es : List Event} (h : Story p es) (hp : p ≠ .closed) (u : Bool) :
      Story p (es ++ [.healthChanged u])
  | moved {p q : Phase} {es : List Event} (h : Story p es) (hq : q ∈ p.successors)
      (hclosed : q ≠ .closed) : Story q (es ++ [.phaseChanged p q])
  | retried {es : List Event} (h : Story .polling es) (delay : Nat) (step : UInt32) (code : Int) :
      Story .polling
        (es ++ [.phaseChanged .polling .backoff, .retryScheduled delay step code,
          .phaseChanged .backoff .polling])
  | closed {p : Phase} {es : List Event} (h : Story p es) (hp : .closed ∈ p.successors)
      (reason : CloseReason) : Story .closed (es ++ [.phaseChanged p .closed, .closed reason])

namespace Story

variable {p : Phase} {es : List Event}

theorem route (h : Story p es) : Route .idle (Event.route es) p := by
  induction h with
  | idle => exact rfl
  | signalled _ _ u ih => rw [Event.route_append]; simpa [Event.route] using ih
  | moved _ hq _ ih => rw [Event.route_append]; exact ih.snoc hq
  | retried _ delay step code ih =>
    rw [Event.route_append]
    have hback := ih.snoc (r := .backoff) (by decide)
    have hagain := hback.snoc (r := .polling) (by decide)
    simpa [Event.route] using hagain
  | closed _ hp reason ih => rw [Event.route_append]; exact ih.snoc hp

/-- An event of a longer list of events is in its beginning or in its end. -/
theorem cut {fs pre post : List Event} {e : Event} (h : es ++ fs = pre ++ e :: post) :
    (∃ rest, es = pre ++ e :: rest ∧ post = rest ++ fs) ∨
      ∃ between, pre = es ++ between ∧ fs = between ++ e :: post := by
  rcases List.append_eq_append_iff.mp h with ⟨between, hpre, hfs⟩ | ⟨rest, hes, hpost⟩
  · exact .inr ⟨between, hpre, hfs⟩
  · cases rest with
    | nil => exact .inr ⟨[], by simpa using hes.symm, hpost.symm⟩
    | cons e' rest =>
      obtain ⟨rfl, rfl⟩ := List.cons.inj hpost
      exact .inl ⟨rest, hes, rfl⟩

theorem cut_of_notMem {fs pre post : List Event} {e : Event} (h : es ++ fs = pre ++ e :: post)
    (hmem : e ∉ fs) : ∃ rest, es = pre ++ e :: rest ∧ post = rest ++ fs := by
  rcases cut h with hrest | ⟨between, -, rfl⟩
  · exact hrest
  · exact absurd (by simp) hmem

/-- A retry is announced between going to backoff and polling again. -/
theorem retry_between {pre post : List Event} {delay : Nat} {step : UInt32} {code : Int}
    (h : Story p es) (hcut : es = pre ++ .retryScheduled delay step code :: post) :
    (∃ earlier, pre = earlier ++ [.phaseChanged .polling .backoff]) ∧
      ∃ later, post = .phaseChanged .backoff .polling :: later := by
  induction h generalizing post with
  | idle => simp at hcut
  | signalled _ _ u ih =>
    obtain ⟨rest, hes, rfl⟩ := cut_of_notMem hcut (by simp)
    obtain ⟨hpre, later, rfl⟩ := ih hes
    exact ⟨hpre, _, rfl⟩
  | moved _ _ _ ih =>
    obtain ⟨rest, hes, rfl⟩ := cut_of_notMem hcut (by simp)
    obtain ⟨hpre, later, rfl⟩ := ih hes
    exact ⟨hpre, _, rfl⟩
  | retried _ _ _ _ ih =>
    rcases cut hcut with ⟨rest, hes, rfl⟩ | ⟨between, rfl, hend⟩
    · obtain ⟨hpre, later, rfl⟩ := ih hes
      exact ⟨hpre, _, rfl⟩
    · -- of the three new events the second is the announcement
      obtain ⟨rfl, rfl⟩ : between = [.phaseChanged .polling .backoff] ∧
          post = [.phaseChanged .backoff .polling] := by
        rcases between with _ | ⟨_, _ | ⟨_, _ | ⟨_, between⟩⟩⟩ <;> simp_all
      exact ⟨⟨_, rfl⟩, _, rfl⟩
  | closed _ _ reason ih =>
    obtain ⟨rest, hes, rfl⟩ := cut_of_notMem hcut (by simp)
    obtain ⟨hpre, later, rfl⟩ := ih hes
    exact ⟨hpre, _, rfl⟩

/-- A stream closes once, right after the change of phase, and tells nothing more. -/
theorem closed_last {pre post : List Event} {reason : CloseReason}
    (h : Story p es) (hcut : es = pre ++ .closed reason :: post) :
    p = .closed ∧ post = [] ∧ ∃ earlier q, pre = earlier ++ [.phaseChanged q .closed] := by
  induction h generalizing post with
  | idle => simp at hcut
  | signalled _ hp _ ih =>
    obtain ⟨rest, hes, rfl⟩ := cut_of_notMem hcut (by simp)
    exact absurd (ih hes).1 hp
  | moved _ hq _ ih =>
    obtain ⟨rest, hes, rfl⟩ := cut_of_notMem hcut (by simp)
    rw [(ih hes).1] at hq
    cases hq
  | retried _ _ _ _ ih =>
    obtain ⟨rest, hes, rfl⟩ := cut_of_notMem hcut (by simp)
    cases (ih hes).1
  | @closed q _ _ hp _ ih =>
    rcases cut hcut with ⟨rest, hes, rfl⟩ | ⟨between, rfl, hend⟩
    · rw [(ih hes).1] at hp
      cases hp
    · -- of the two new events the second is the end
      obtain ⟨rfl, rfl⟩ : between = [.phaseChanged q .closed] ∧ post = [] := by
        rcases between with _ | ⟨_, _ | ⟨_, between⟩⟩ <;> simp_all
      exact ⟨rfl, rfl, _, _, rfl⟩

/-- A stream that has come to its end has told why. -/
theorem exists_closed (h : Story .closed es) : ∃ reason, .closed reason ∈ es := by
  generalize hp : Phase.closed = p at h
  cases h with
  | idle => cases hp
  | signalled _ hopen _ => exact absurd hp.symm hopen
  | moved _ _ hopen => exact absurd hp.symm hopen
  | retried => cases hp
  | closed _ _ reason => exact ⟨reason, by simp⟩

/-- The signal may have gone down. -/
theorem calmed {l : Lifecycle} (h : Story p es) (hp : p ≠ .closed) : Story p (es ++ l.calmed) := by
  unfold Lifecycle.calmed
  split
  · exact h.signalled hp false
  · rwa [List.append_nil]

end Story

namespace Lifecycle

/-! ## The invariant -/

/-- The state of a lifecycle after any calls, under a policy. -/
structure Sound (p : Backoff.Policy) (l : Lifecycle) : Prop where
  story : Story l.phase l.events
  watched : l.watched.value = l.phase
  policy : l.backoff.policy = p
  failures : l.phase ≠ .backoff → l.phase ≠ .closed → l.failures.toNat ≤ p.maxRetries.toNat
  reason : l.phase = .closed → ∃ pre reason, l.events = pre ++ [.closed reason] ∧
    l.closeReason = some reason
  calm : l.phase = .closed → l.health.deadline = none

theorem sound_ofOptions (o : Options) : (ofOptions o).Sound o.backoff where
  story := .idle
  watched := rfl
  policy := rfl
  failures _ _ := Nat.zero_le _
  reason h := by cases h
  calm h := by cases h

variable {p : Backoff.Policy} {l l' : Lifecycle} {i : Input} {output : Output}

/-- A call on a closed stream is refused and leaves it as it is. -/
theorem Response.of_closed {reason : CloseReason} (hr : l.Response i l' output)
    (hclosed : l.phase = .closed) (hreason : l.closeReason = some reason)
    (hcalm : l.health.deadline = none) : l' = l ∧ output = i.refusal reason := by
  cases hr with
  | ignored hi =>
    have hcommand : l.currentCommand = .close reason := by
      unfold currentCommand
      rw [hreason]
      exact if_pos hclosed
    rw [hcommand]
    cases i with
    | awaitHealth => cases hi
    | start | receive | delivered | requestClose => exact ⟨rfl, rfl⟩
  | started h | brought h | failedLast h | retried h | broken h | continued h =>
    rw [hclosed] at h; cases h
  | closed h => rw [hclosed] at h; simp at h
  | asked h => exact absurd hclosed h
  | awaited =>
    rw [l.health.await_of_deadline hcalm]
    simp [Input.refusal]

theorem Sound.turns_closed (h : l.Sound p) (hclosed : l.phase = .closed) {reason : CloseReason}
    (hreason : l.closeReason = some reason) (inputs : List Input) :
    l.turns inputs = inputs.map fun i => ⟨l, i, i.refusal reason, l⟩ := by
  induction inputs with
  | nil => rfl
  | cons i inputs ih =>
    obtain ⟨hsame, hrefused⟩ := (l.response i).of_closed hclosed hreason (h.calm hclosed)
    unfold turns
    rw [hsame, hrefused, ih]
    rfl

theorem Sound.within (h : l.Sound p) : l.bearing.Within p := ⟨h.policy, h.failures⟩

theorem Sound.ne_lastFailure (h : l.Sound p) (hretries : p.maxRetries ≠ lastFailure)
    (hphase : l.phase = .polling) : l.failures ≠ lastFailure :=
  fun hlast => hretries (h.within.maxRetries_eq hphase hlast)

/-- Under an ordered policy that does not retry for ever, every call keeps the invariant, and none
breaks off. -/
theorem Sound.step (hp : p.IsOrdered) (hretries : p.maxRetries ≠ lastFailure) (h : l.Sound p)
    (hr : l.Response i l' output) : l'.Sound p ∧ ∀ fault, output ≠ .broken fault := by
  have hstory := h.story
  have hreturns := hr.ne_broken (by rw [h.policy]; exact hp) (h.ne_lastFailure hretries)
  have hfailures := hr.failures_le h.within
  cases hr with
  | ignored => exact ⟨h, nofun⟩
  | started hphase =>
    rw [hphase] at hstory
    have hpolling := hstory.moved (q := .polling) (by decide) (by decide)
    exact ⟨⟨hpolling, rfl, h.policy, hfailures, nofun, nofun⟩, nofun⟩
  | brought hphase =>
    rw [hphase] at hstory
    have hbrought := hstory.moved (q := .delivering) (by decide) (by decide)
    exact ⟨⟨hbrought.calmed (by decide), rfl, h.policy, hfailures, nofun, nofun⟩, nofun⟩
  | failedLast hphase =>
    rw [hphase] at hstory
    have hfailed := hstory.moved (q := .backoff) (by decide) (by decide)
    exact ⟨⟨hfailed, rfl, h.policy, hfailures, nofun, nofun⟩, nofun⟩
  | retried hphase _ _ hnext =>
    rw [hphase] at hstory
    exact ⟨⟨hstory.retried _ _ _, rfl, (Backoff.Controller.nextDelay_policy hnext).trans h.policy,
      hfailures, nofun, nofun⟩, nofun⟩
  | broken => exact absurd rfl (hreturns _)
  | continued hphase =>
    rw [hphase] at hstory
    have hpolling := hstory.moved (q := .polling) (by decide) (by decide)
    exact ⟨⟨hpolling, rfl, h.policy, hfailures, nofun, nofun⟩, nofun⟩
  | closed hphase =>
    have hopen : l.phase ≠ .closed ∧ .closed ∈ l.phase.successors := by
      rcases hphase with hphase | hphase | hphase <;> rw [hphase] <;> decide
    exact ⟨⟨(hstory.calmed hopen.1).closed hopen.2 _, rfl, h.policy, hfailures,
      fun _ => ⟨_, _, by rw [List.append_cons], rfl⟩, fun _ => rfl⟩, nofun⟩
  | asked hopen =>
    exact ⟨⟨hstory, h.watched, h.policy, hfailures, fun hclosed => absurd hclosed hopen,
      fun hclosed => absurd hclosed hopen⟩, nofun⟩
  | @awaited now limit =>
    by_cases hclosed : l.phase = .closed
    · -- a closed stream has nothing to wait for
      rw [l.health.await_of_deadline (h.calm hclosed)]
      simpa using h
    · refine ⟨⟨?_, h.watched, h.policy, h.failures, fun he => absurd he hclosed,
        fun he => absurd he hclosed⟩, nofun⟩
      show Story l.phase (l.events ++ if _ then _ else _)
      split
      · exact hstory.signalled hclosed true
      · rwa [List.append_nil]

/-- After any calls a lifecycle is as its events tell. -/
theorem sound_after {o : Options} (hp : o.backoff.IsOrdered)
    (hretries : o.backoff.maxRetries ≠ lastFailure) (inputs : List Input) :
    ((ofOptions o).after inputs).Sound o.backoff :=
  after_induction _ (fun l i h => (h.step hp hretries (l.response i)).1) (sound_ofOptions o) inputs

/-- Whatever is called, and in whatever order, with options that are valid: no call breaks off; the
changes of phase that are told lead from the beginning to the phase that the stream is in and shows;
a retry is told of between going to backoff and polling again; and the end is told once, when the
stream has come to its last phase, where it stays as it is and refuses every call. -/
theorem history (o : Options) (hvalid : o.validate = .ok ())
    (hretries : o.backoff.maxRetries ≠ 0xffffffff) (inputs : List Input) :
    let l := (ofOptions o).after inputs
    (∀ t ∈ (ofOptions o).turns inputs, ∀ fault, t.output ≠ .broken fault) ∧
    Route .idle (Event.route l.events) l.phase ∧ l.watched.value = l.phase ∧
    (∀ pre post delay step code, l.events = pre ++ .retryScheduled delay step code :: post →
      (∃ earlier, pre = earlier ++ [.phaseChanged .polling .backoff]) ∧
        ∃ later, post = .phaseChanged .backoff .polling :: later) ∧
    (l.phase = .closed → ∃ reason, .closed reason ∈ l.events) ∧
    ∀ pre post reason, l.events = pre ++ .closed reason :: post →
      (∃ earlier p, pre = earlier ++ [.phaseChanged p .closed]) ∧ post = [] ∧
        l.phase = .closed ∧ l.closeReason = some reason ∧
        ∀ more, l.turns more = more.map fun i => ⟨l, i, i.refusal reason, l⟩ := by
  intro l
  have hp := (Options.accepted hvalid).1
  have h : l.Sound o.backoff := sound_after hp hretries inputs
  refine ⟨?_, h.story.route, h.watched, fun _ _ _ _ _ hcut => h.story.retry_between hcut, ?_, ?_⟩
  · intro t ht
    obtain ⟨earlier, hbefore, hrespond⟩ := mem_turns _ ht
    have hsound := sound_after hp hretries earlier
    rw [← hbefore] at hsound
    have hr := t.before.response t.input
    rw [hrespond] at hr
    exact (hsound.step hp hretries hr).2
  · intro hclosed
    have hstory := h.story
    rw [hclosed] at hstory
    exact hstory.exists_closed
  · intro pre post reason hcut
    obtain ⟨hclosed, rfl, hpre⟩ := h.story.closed_last hcut
    obtain ⟨pre', reason', hlast, hreason⟩ := h.reason hclosed
    -- the reason that is kept is the one that was told
    have htold : reason' = reason := by
      have := (hlast.symm.trans hcut)
      simpa using (List.append_inj_right' this rfl)
    subst htold
    exact ⟨hpre, rfl, hclosed, hreason, h.turns_closed hclosed hreason⟩

/-- Calls out of turn, and what they leave of a stream: a second start, an outcome that comes after
the end of the console, and calls on the closed stream. -/
theorem history_brief :
    let l := (ofOptions .default).after
      [.start 0, .start 1, .receive (.error (.transport "refused")) 2, .receive (.ok none) 3,
        .receive (.ok none) 4, .delivered .stop 5]
    l.phase = .closed ∧ l.closeReason = some .serverClosed ∧
      ∀ more, l.turns more = more.map fun i => ⟨l, i, i.refusal .serverClosed, l⟩ := by
  intro l
  have h := history .default rfl (by decide)
    [.start 0, .start 1, .receive (.error (.transport "refused")) 2, .receive (.ok none) 3,
      .receive (.ok none) 4, .delivered .stop 5]
  obtain ⟨-, -, -, -, -, hclosed⟩ := h
  have hcut : l.events = l.events.dropLast ++ [.closed .serverClosed] := by
    decide
  exact (hclosed _ _ _ hcut).2.2

end Lifecycle

end RemoteConsole
