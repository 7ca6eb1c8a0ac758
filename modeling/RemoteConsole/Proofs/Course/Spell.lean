import RemoteConsole.Proofs.Course.Alarms

/-!
# Spells of pending attempts

The timeline of a stream that fetches by itself, told without a monitor and its deadline. An attempt
is pending since an anchor; the signal is up from the debounce after the anchor to the success, or
the end of the stream, that ends the attempt.

* `Health.spell`: the changes of the signal for one anchor.
* `Feed.since`, `Feed.anchor?`: the anchor of the attempt that is pending when an outcome is waited
  for.
* `Feed.timeline`: the spells that the first outcomes end.
* `Feed.deadline?_eq`, `Feed.alarms_eq_timeline`: the deadlines and the alarms of the feed are those
  of its spells.
-/

namespace RemoteConsole

/-- The changes of the signal about an attempt that is pending since an anchor. It goes up after the
debounce, unless the attempt ends by then, and goes down when the attempt ends, if it ever does. -/
def Health.spell (debounce anchor : Nat) : Option Nat → List (Nat × Bool)
  | none => [(anchor + debounce, true)]
  | some ending =>
    if anchor + debounce < ending then [(anchor + debounce, true), (ending, false)] else []

namespace Feed

variable (feed : Feed) (o : Options)

/-- The first outcome after the latest success among the first `n`, or the first of all. -/
def since (n : Nat) : Nat := n - feed.failuresInRow n

/-- When the attempt began that is pending while the outcome `i` is waited for: at the start or the
latest success, or only at the first failure since. -/
def anchor? (i : Nat) : Option Nat :=
  match o.health.arming with
  | .onEveryPoll =>
    match feed.since i with
    | 0 => some 0
    | m + 1 => some (feed.arrival o.backoff m)
  | .onFailure => if feed.since i < i then some (feed.arrival o.backoff (feed.since i)) else none

/-- The changes of the signal about the attempt that is pending while the outcome `i` is waited for,
if it ends at the given time. -/
def spellAt (i : Nat) (ending : Option Nat) : List (Nat × Bool) :=
  (feed.anchor? o i).toList.flatMap fun a => Health.spell o.health.debounceMs.toNat a ending

/-- The changes of the signal about the attempts that the first `n` outcomes end: those outcomes
that are a success, or close the stream. -/
def timeline (n : Nat) : List (Nat × Bool) :=
  (List.range n).flatMap fun i =>
    if feed.isDelivered o.backoff i then
      feed.spellAt o i (some (feed.arrival o.backoff i))
    else []

variable {feed o} {i j m n : Nat} {e : FetchError} {chunk : Option Chunk}

/-! ## The latest success -/

theorem since_le (n : Nat) : feed.since n ≤ n := Nat.sub_le _ _

theorem since_ok (h : feed.answer n = .ok chunk) : feed.since (n + 1) = n + 1 := by
  unfold since
  rw [failuresInRow_ok h]
  rfl

theorem since_error (h : feed.answer n = .error e) : feed.since (n + 1) = feed.since n := by
  unfold since
  rw [failuresInRow_error h, Nat.add_sub_add_right]

/-- Nothing has succeeded since. -/
theorem error_of_since_le (hj : feed.since n ≤ j) (hn : j < n) : ∃ e, feed.answer j = .error e := by
  induction n with
  | zero => exact absurd hn (Nat.not_lt_zero j)
  | succ n ih =>
    cases ha : feed.answer n with
    | ok =>
      rw [since_ok ha] at hj
      exact absurd hn (Nat.not_lt.mpr hj)
    | error e =>
      rw [since_error ha] at hj
      rcases Nat.lt_succ_iff_lt_or_eq.mp hn with hlt | rfl
      · exact ih hj hlt
      · exact ⟨e, ha⟩

/-! ## Anchors and deadlines -/

/-- Later failures neither put off nor bring forward what an anchor began. -/
theorem anchor?_error (h : feed.answer i = .error e) {a : Nat} (ha : feed.anchor? o i = some a) :
    feed.anchor? o (i + 1) = some a := by
  have hsame := since_error h
  unfold anchor? at ha ⊢
  rw [hsame]
  cases harming : o.health.arming with
  | onEveryPoll =>
    rw [harming] at ha
    exact ha
  | onFailure =>
    rw [harming] at ha
    dsimp only at ha ⊢
    split at ha
    · next hlt => rw [if_pos (Nat.lt_succ_of_lt hlt)]; exact ha
    · cases ha

/-- Without a failure there is no anchor, unless every poll is one. -/
theorem anchor?_eq_none (harming : o.health.arming = .onFailure)
    (h : ∀ j < i, ∃ chunk, feed.answer j = .ok chunk) : feed.anchor? o i = none := by
  unfold anchor?
  rw [harming]
  refine if_neg fun hlt => ?_
  obtain ⟨chunk, hok⟩ := h _ hlt
  obtain ⟨e, herror⟩ := error_of_since_le (Nat.le_refl _) hlt
  cases hok.symm.trans herror

/-- The deadline is the debounce after the anchor. -/
theorem deadline?_eq (i : Nat) :
    feed.deadline? o i = (feed.anchor? o i).map (· + o.health.debounceMs.toNat) := by
  induction i with
  | zero =>
    unfold anchor? deadline? Options.freshDeadline?
    cases o.health.arming <;> rfl
  | succ i ih =>
    cases ha : feed.answer i with
    | ok chunk =>
      rw [deadline?_ok ha]
      unfold anchor? Options.freshDeadline?
      rw [since_ok ha]
      cases o.health.arming with
      | onEveryPoll => rfl
      | onFailure =>
        dsimp only
        rw [if_neg (Nat.lt_irrefl _)]
        rfl
    | error e =>
      rw [deadline?_error ha, ih]
      cases hanchor : feed.anchor? o i with
      | some a => rw [anchor?_error ha hanchor]; rfl
      | none =>
        -- This is the first failure since the latest success.
        unfold anchor? at hanchor ⊢
        rw [since_error ha]
        cases harming : o.health.arming with
        | onEveryPoll =>
          rw [harming] at hanchor
          dsimp only at hanchor
          split at hanchor <;> cases hanchor
        | onFailure =>
          rw [harming] at hanchor
          dsimp only at hanchor ⊢
          split at hanchor
          · cases hanchor
          · next hlt =>
            have hfirst : feed.since i = i :=
              Nat.le_antisymm (since_le i) (Nat.le_of_not_lt hlt)
            rw [hfirst, if_pos (Nat.lt_succ_self i)]
            rfl

theorem exists_anchor {d : Nat} (h : feed.deadline? o i = some d) :
    ∃ a, feed.anchor? o i = some a ∧ d = a + o.health.debounceMs.toNat := by
  rw [deadline?_eq] at h
  obtain ⟨a, ha, rfl⟩ := Option.map_eq_some_iff.mp h
  exact ⟨a, ha, rfl⟩

/-! ## The alarms -/

theorem spellAt_none (i : Nat) :
    feed.spellAt o i none = (feed.deadline? o i).toList.map fun d => (d, true) := by
  unfold spellAt
  rw [deadline?_eq]
  cases feed.anchor? o i <;> rfl

theorem alarmsAt_eq (i : Nat) :
    feed.alarmsAt o false i =
      if feed.isDelivered o.backoff i then
        feed.spellAt o i (some (feed.arrival o.backoff i))
      else [] := by
  unfold alarmsAt spellAt
  rw [deadline?_eq]
  cases hdelivered : feed.isDelivered o.backoff i with
  | false => cases feed.anchor? o i <;> rfl
  | true =>
    cases feed.anchor? o i with
    | none => rfl
    | some a => simp [Rings, Health.spell]

/-- The alarms of a stream that fetches by itself are the spells of its feed. -/
theorem alarms_eq_timeline (n : Nat) : feed.alarms o false n = feed.timeline o n :=
  congrArg (List.range n).flatMap (funext alarmsAt_eq)

theorem timeline_succ (n : Nat) :
    feed.timeline o (n + 1) = feed.timeline o n ++ feed.alarmsAt o false n := by
  rw [← alarms_eq_timeline, ← alarms_eq_timeline, alarms_succ]

/-- The signal only goes down after it went up in the same spell. -/
theorem timeline_before_down {alarms : List (Nat × Bool)} {t : Nat}
    (h : alarms ++ [(t, false)] = feed.timeline o n) :
    ∃ i < n, ∃ a, feed.anchor? o i = some a ∧
      a + o.health.debounceMs.toNat < feed.arrival o.backoff i ∧
      alarms = feed.timeline o i ++ [(a + o.health.debounceMs.toNat, true)] := by
  induction n with
  | zero => exact absurd h (List.append_ne_nil_of_right_ne_nil _ (List.cons_ne_nil _ _))
  | succ n ih =>
    have hlater : feed.alarmsAt o false n = [] → alarms ++ [(t, false)] = feed.timeline o n := by
      intro hnil
      rw [h, timeline_succ, hnil, List.append_nil]
    by_cases hnil : feed.alarmsAt o false n = []
    · obtain ⟨i, hi, hspell⟩ := ih (hlater hnil)
      exact ⟨i, Nat.lt_succ_of_lt hi, hspell⟩
    · -- The last spell is the one of this outcome.
      rw [timeline_succ] at h
      unfold alarmsAt at h hnil
      cases hd : feed.deadline? o n with
      | none => rw [hd] at hnil; exact absurd rfl hnil
      | some d =>
        rw [hd] at h hnil
        dsimp only at h hnil
        obtain ⟨a, hanchor, rfl⟩ := exists_anchor hd
        split at h
        · next hrings =>
          have hsplit := List.append_inj_left'
            (h.trans (List.append_assoc (feed.timeline o n) [_] [_]).symm) rfl
          exact ⟨n, Nat.lt_succ_self n, a, hanchor, hrings.2.resolve_right nofun, hsplit⟩
        · next hrings => exact absurd (if_neg hrings) hnil

/-- Without a failure there are no spells, unless every poll begins one. -/
theorem timeline_eq_nil (harming : o.health.arming = .onFailure)
    (h : ∀ j < n, ∃ chunk, feed.answer j = .ok chunk) : feed.timeline o n = [] := by
  unfold timeline
  refine List.flatMap_eq_nil_iff.mpr fun i hi => ?_
  have hi := List.mem_range.mp hi
  have hnone : feed.spellAt o i (some (feed.arrival o.backoff i)) = [] := by
    unfold spellAt
    rw [anchor?_eq_none harming fun j hj => h j (Nat.lt_trans hj hi)]
    rfl
  rw [hnone, ite_self]

/-- The short feed with a debounce of 100 milliseconds: it fails at 3, and its text is there at
262. -/
example : brief.timeline (Options.default.withDebounce 0 100000000) 3 =
    [(103, true), (262, false)] := by
  decide +kernel

end Feed

end RemoteConsole
