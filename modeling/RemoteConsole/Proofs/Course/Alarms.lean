import RemoteConsole.Proofs.Course.Place

/-!
# The timeline of the health signal

* `Stream.alarms`: the health events of a stream, with their times.
* `Feed.deadline?`: when the signal is to go up, unless the outcome that is waited for is there
  before.
* `Rings`: whether it does. It matters where fetches run: an outcome that comes at the very time of
  the deadline is before it in a stream that fetches by itself, and behind it in a worker's stream.
* `Feed.alarms`: the health events up to an outcome. `Feed.alarms_eq_iff`: when they do not depend
  on where fetches run.
-/

namespace RemoteConsole

/-- The health signal of which an event tells. -/
def Event.signal? : Event → Option Bool
  | .healthChanged unhealthy => some unhealthy
  | .phaseChanged _ _ => none
  | .retryScheduled _ _ _ => none
  | .closed _ => none

/-- The changes of the health signal among events at a time. -/
def Event.alarms (now : Nat) (es : List Event) : List (Nat × Bool) :=
  es.filterMap fun e => e.signal?.map fun unhealthy => (now, unhealthy)

theorem Event.alarms_append (now : Nat) (xs ys : List Event) :
    Event.alarms now (xs ++ ys) = Event.alarms now xs ++ Event.alarms now ys :=
  List.filterMap_append

namespace Stream

/-- The changes of the health signal that were published, with their times. -/
def alarms (s : Stream) : List (Nat × Bool) :=
  s.published.filterMap fun p => p.event.signal?.map fun unhealthy => (p.time, unhealthy)

theorem alarms_proceed (s : Stream) (l : Lifecycle) (command : Command) :
    (s.proceed (l, command)).alarms = s.alarms ++ Event.alarms s.now l.events := by
  unfold alarms proceed publish Event.alarms
  rw [List.filterMap_append, List.filterMap_map]
  rfl

end Stream

theorem Lifecycle.alarms_calmed (l : Lifecycle) (now : Nat) :
    Event.alarms now l.calmed = if l.health.isUnhealthy then [(now, false)] else [] := by
  unfold calmed
  split <;> rfl

/-- The deadline after a start or a success, before anything has failed. -/
def Options.freshDeadline? (o : Options) (now : Nat) : Option Nat :=
  if o.health.arming = .onEveryPoll then some (now + o.health.debounceMs.toNat) else none

/-- A deadline comes before an outcome. -/
def Rings (isOffloaded : Bool) (deadline arrival : Nat) : Prop :=
  deadline < arrival ∨ isOffloaded = true ∧ deadline = arrival

instance {isOffloaded : Bool} {deadline arrival : Nat} :
    Decidable (Rings isOffloaded deadline arrival) :=
  inferInstanceAs (Decidable (_ ∨ _))

theorem Rings.mono {isOffloaded : Bool} {deadline arrival later : Nat}
    (h : Rings isOffloaded deadline arrival) (hle : arrival ≤ later) :
    Rings isOffloaded deadline later := by
  unfold Rings at h ⊢
  rcases h with h | ⟨ho, h⟩
  · exact .inl (Nat.lt_of_lt_of_le h hle)
  · rcases Nat.lt_or_eq_of_le hle with hlt | heq
    · exact .inl (h ▸ hlt)
    · exact .inr ⟨ho, h.trans heq⟩

namespace Feed

variable (feed : Feed) (o : Options)

/-- When the signal is to go up while the outcome `i` is waited for: the debounce after the start or
the last success, or after the first failure since. -/
def deadline? : Nat → Option Nat
  | 0 => o.freshDeadline? 0
  | i + 1 =>
    match feed.answer i with
    | .ok _ => o.freshDeadline? (feed.arrival o.backoff i)
    | .error _ =>
      (deadline? i).or (some (feed.arrival o.backoff i + o.health.debounceMs.toNat))

variable (isOffloaded : Bool)

/-- The changes of the signal that an outcome settles: it goes up before the outcome, and down with
it, or stays as it is. -/
def alarmsAt (i : Nat) : List (Nat × Bool) :=
  match feed.deadline? o i with
  | some d =>
    if feed.isDelivered o.backoff i = true ∧ Rings isOffloaded d (feed.arrival o.backoff i) then
      [(d, true), (feed.arrival o.backoff i, false)]
    else []
  | none => []

/-- The changes of the signal that the first `n` outcomes settle. -/
def alarms (n : Nat) : List (Nat × Bool) :=
  (List.range n).flatMap (feed.alarmsAt o isOffloaded)

/-- The outcome settles the signal at the very time of the deadline. -/
def IsTie (i : Nat) : Prop :=
  feed.isDelivered o.backoff i = true ∧ feed.deadline? o i = some (feed.arrival o.backoff i)

variable {feed o isOffloaded} {i n d : Nat}

theorem deadline?_ok {chunk : Option Chunk} (h : feed.answer i = .ok chunk) :
    feed.deadline? o (i + 1) = o.freshDeadline? (feed.arrival o.backoff i) := by
  rw [deadline?, h]

theorem deadline?_error {e : FetchError} (h : feed.answer i = .error e) :
    feed.deadline? o (i + 1) =
      (feed.deadline? o i).or
        (some (feed.arrival o.backoff i + o.health.debounceMs.toNat)) := by
  rw [deadline?, h]

theorem alarms_succ (n : Nat) :
    feed.alarms o isOffloaded (n + 1) =
      feed.alarms o isOffloaded n ++ feed.alarmsAt o isOffloaded n := by
  unfold alarms
  rw [List.range_succ, List.flatMap_append, List.flatMap_singleton]

/-- The deadlines have nothing to do with where fetches run. -/
theorem deadline?_withOffload (mode : OffloadMode) (i : Nat) :
    feed.deadline? (o.withOffload mode) i = feed.deadline? o i := by
  induction i with
  | zero => rfl
  | succ i ih =>
    cases ha : feed.answer i with
    | ok chunk =>
      rw [deadline?_ok ha, deadline?_ok ha]
      rfl
    | error e =>
      rw [deadline?_error ha, deadline?_error ha, ih]
      rfl

theorem alarms_withOffload (mode : OffloadMode) (n : Nat) :
    feed.alarms (o.withOffload mode) isOffloaded n = feed.alarms o isOffloaded n := by
  unfold alarms alarmsAt
  simp only [deadline?_withOffload]
  rfl

/-- The signal went up before the outcome. -/
theorem alarmsAt_of_rings (hdelivered : feed.isDelivered o.backoff i = true)
    (hd : feed.deadline? o i = some d) (h : Rings isOffloaded d (feed.arrival o.backoff i)) :
    feed.alarmsAt o isOffloaded i = [(d, true), (feed.arrival o.backoff i, false)] := by
  unfold alarmsAt
  rw [hd]
  exact if_pos ⟨hdelivered, h⟩

/-- The signal did not go up before the outcome. -/
theorem alarmsAt_of_not_rings
    (h : ∀ d, feed.deadline? o i = some d → ¬ Rings isOffloaded d (feed.arrival o.backoff i)) :
    feed.alarmsAt o isOffloaded i = [] := by
  unfold alarmsAt
  split
  · next d hd => exact if_neg fun hand => h d hd hand.2
  · rfl

/-- An outcome that is not delivered settles nothing. -/
theorem alarmsAt_of_not_delivered (h : feed.isDelivered o.backoff i = false) :
    feed.alarmsAt o isOffloaded i = [] := by
  unfold alarmsAt
  split
  · exact if_neg fun hand => Bool.false_ne_true (h.symm.trans hand.1)
  · rfl

/-! ## Ties -/

theorem alarmsAt_of_not_tie (h : ¬ feed.IsTie o i) :
    feed.alarmsAt o true i = feed.alarmsAt o false i := by
  unfold alarmsAt
  cases hd : feed.deadline? o i with
  | none => rfl
  | some d =>
    refine if_congr (and_congr_right fun hdelivered => ?_) rfl rfl
    have hne : d ≠ feed.arrival o.backoff i := by
      rintro rfl
      exact h ⟨hdelivered, hd⟩
    simp [Rings, hne]

/-- At a tie, only a worker's stream has the signal go up. -/
theorem alarmsAt_of_tie (h : feed.IsTie o i) :
    feed.alarmsAt o true i =
        [(feed.arrival o.backoff i, true), (feed.arrival o.backoff i, false)] ∧
      feed.alarmsAt o false i = [] := by
  obtain ⟨hdelivered, hd⟩ := h
  refine ⟨alarmsAt_of_rings hdelivered hd (.inr ⟨rfl, rfl⟩), alarmsAt_of_not_rings ?_⟩
  intro d hd'
  cases hd.symm.trans hd'
  simp [Rings]

variable (feed o) in
/-- A worker's stream has no fewer alarms. -/
theorem length_alarms_le (n : Nat) :
    (feed.alarms o false n).length ≤ (feed.alarms o true n).length := by
  induction n with
  | zero => exact Nat.le_refl 0
  | succ n ih =>
    rw [alarms_succ, alarms_succ, List.length_append, List.length_append]
    by_cases htie : feed.IsTie o n
    · rw [(alarmsAt_of_tie htie).2]
      exact Nat.le_add_right_of_le ih
    · rw [alarmsAt_of_not_tie htie]
      exact Nat.add_le_add_right ih _

/-- The timelines of both kinds of streams are the same if and only if no outcome is a tie. -/
theorem alarms_eq_iff :
    feed.alarms o true n = feed.alarms o false n ↔ ∀ i < n, ¬ feed.IsTie o i := by
  induction n with
  | zero => exact ⟨fun _ i hi => absurd hi (Nat.not_lt_zero i), fun _ => rfl⟩
  | succ n ih =>
    rw [alarms_succ, alarms_succ]
    constructor
    · intro h i hi
      have hnone : ¬ feed.IsTie o n := by
        intro htie
        have hle := length_alarms_le feed o n
        have hlengths := congrArg List.length h
        obtain ⟨htrue, hfalse⟩ := alarmsAt_of_tie htie
        simp only [htrue, hfalse, List.length_append, List.length_cons, List.length_nil] at hlengths
        omega
      rw [alarmsAt_of_not_tie hnone] at h
      rcases Nat.lt_succ_iff_lt_or_eq.mp hi with hi | rfl
      · exact ih.mp (List.append_cancel_right h) i hi
      · exact hnone
    · intro h
      rw [ih.mpr fun i hi => h i (Nat.lt_succ_of_lt hi),
        alarmsAt_of_not_tie (h n (Nat.lt_succ_self n))]

end Feed

end RemoteConsole
