import Mathlib.Order.Monotone.Basic
import RemoteConsole.Proofs.Course.Place

/-!
# What a stream tells of its point

* `Stage.IsAt`: the points at which a stream has a stage. `Point.next_deliver`, ...: with the stage,
  it is clear where an outcome or a delivery led.
* `Point.begun`: the fetches that have begun at a point.
* `At.unique`: with what it has done, a stream is at one point only.
-/

namespace RemoteConsole

variable {c : Client} {feed : Feed} {p : Backoff.Policy} {q q' : Point} {s : Stream}

/-- A stream with this stage can be at the point. -/
def Stage.IsAt (q : Point) : Stage → Prop
  | .starting => q = .ready
  | .executing (.fetch _) => ∃ i, q = .booked i
  | .waiting _ => ∃ i, q = .booked i ∨ q = .underway i
  | .executing (.deliver _) => ∃ i, q = .received i
  | .executing (.close _) => ∃ i, q = .leaving i
  | .leaving _ => ∃ i, q = .leaving i
  | .finished _ => ∃ i, q = .finished i
  | .executing .wait => False
  | .crashed => False

theorem Place.isAt (h : Place c feed q s) : s.stage.IsAt q := by
  cases h with
  | ready hstage => rw [hstage]; rfl
  | @ordered i _ _ hstage => rw [hstage]; exact ⟨i, rfl⟩
  | @waiting _ i duty _ _ hq hstage =>
    rw [hstage, hq]
    cases duty with
    | fetching | answered => exact ⟨i, .inr rfl⟩
    | idle | ordered | delaying => exact ⟨i, .inl rfl⟩
  | @received i _ h => rw [h.stage]; exact ⟨i, rfl⟩
  | @leaving i _ _ hstage => rcases hstage with hstage | hstage <;> rw [hstage] <;> exact ⟨i, rfl⟩
  | @finished i _ _ hstage => rw [hstage]; exact ⟨i, rfl⟩

/-! ## The next point -/

namespace Point

variable {i : Nat} {chunk : Option Chunk} {delay : Nat} {reason : CloseReason}

theorem next_deliver (hq : (underway i).next feed p = some q)
    (h : Stage.IsAt q (.executing (.deliver chunk))) :
    feed.isDelivered p i = true ∧ q = .received i := by
  obtain ⟨j, rfl⟩ := h
  rw [next] at hq
  split at hq
  · next hdelivered => exact ⟨hdelivered, (Option.some.inj hq).symm⟩
  · cases hq

theorem next_retry (hq : (underway i).next feed p = some q)
    (h : Stage.IsAt q (.executing (.fetch delay))) :
    feed.isDelivered p i = false ∧ q = .booked (i + 1) := by
  obtain ⟨j, rfl⟩ := h
  rw [next] at hq
  split at hq
  · cases hq
  · next hdelivered => exact ⟨Bool.eq_false_iff.mpr hdelivered, (Option.some.inj hq).symm⟩

theorem next_fetch (hq : (received i).next feed p = some q)
    (h : Stage.IsAt q (.executing (.fetch delay))) :
    feed.ending? p i = none ∧ q = .booked (i + 1) := by
  obtain ⟨j, rfl⟩ := h
  rw [next] at hq
  split at hq
  · cases hq
  · next hopen =>
    exact ⟨Option.not_isSome_iff_eq_none.mp hopen, (Option.some.inj hq).symm⟩

theorem next_close (hq : (received i).next feed p = some q)
    (h : Stage.IsAt q (.executing (.close reason))) : q = .leaving i := by
  obtain ⟨j, rfl⟩ := h
  rw [next] at hq
  split at hq
  · exact (Option.some.inj hq).symm
  · cases hq

end Point

/-! ## One point only -/

namespace Feed

theorem passage_ne_nil (i : Nat) : feed.passage p i ≠ [] := by
  unfold passage
  split <;> exact List.cons_ne_nil _ _

/-- Every outcome that leaves the stream open adds to the log. -/
theorem log_injective : Function.Injective (feed.log p) := by
  have hmono : StrictMono fun n => (feed.log p n).length := by
    refine strictMono_nat_of_lt_succ fun n => ?_
    have hpos := List.length_pos_iff.mpr (feed.passage_ne_nil (p := p) n)
    rw [log_succ, List.length_append, List.length_map]
    omega
  exact fun i j h => hmono.injective (congrArg List.length h)

end Feed

/-- The number of fetches that have begun at the point. -/
def Point.begun : Point → Nat
  | .ready => 0
  | .booked i => i
  | .underway i => i + 1
  | .received i => i + 1
  | .leaving i => i + 1
  | .finished i => i + 1

theorem Point.length_begun (c : Client) (feed : Feed) (q : Point) :
    (q.trace c feed).record.begun.length = q.begun := by
  have hbefore (n : Nat) : (c.recordBefore feed n).begun.length = n := by
    rw [Client.recordBefore, List.length_map, List.length_range]
  have hfetched (n : Nat) : (c.recordFetched feed n).begun.length = n + 1 :=
    List.length_append.trans (congrArg (· + 1) (hbefore n))
  cases q with
  | ready => rfl
  | booked i => exact hbefore i
  | underway i | received i | leaving i | finished i => exact hfetched i

theorem At.unique (h : At c feed q s) (h' : At c feed q' s) : q = q' := by
  have htrace : q.trace c feed = q'.trace c feed := h.trace.symm.trans h'.trace
  have hevents : (q.trace c feed).events = (q'.trace c feed).events := congrArg (·.events) htrace
  have hbegun : q.begun = q'.begun := by
    rw [← Point.length_begun c feed, ← Point.length_begun c feed, htrace]
  have hq := h.place.isAt
  have hq' := h'.place.isAt
  cases hs : s.stage with
  | starting =>
    rw [hs] at hq hq'
    exact hq.trans hq'.symm
  | waiting =>
    -- The log tells for which fetch it waits, and the record whether that fetch has begun.
    rw [hs] at hq hq'
    obtain ⟨i, rfl | rfl⟩ := hq <;> obtain ⟨j, rfl | rfl⟩ := hq' <;>
      obtain rfl := Feed.log_injective hevents
    · rfl
    · exact absurd hbegun (Nat.ne_of_lt (Nat.lt_succ_self i))
    · exact absurd hbegun.symm (Nat.ne_of_lt (Nat.lt_succ_self i))
    · rfl
  | leaving | finished =>
    rw [hs] at hq hq'
    obtain ⟨i, rfl⟩ := hq
    obtain ⟨j, rfl⟩ := hq'
    rw [Nat.succ.inj hbegun]
  | crashed =>
    rw [hs] at hq
    cases hq
  | executing command =>
    rw [hs] at hq hq'
    cases command with
    | fetch =>
      obtain ⟨i, rfl⟩ := hq
      obtain ⟨j, rfl⟩ := hq'
      exact congrArg Point.booked hbegun
    | deliver | close =>
      obtain ⟨i, rfl⟩ := hq
      obtain ⟨j, rfl⟩ := hq'
      rw [Nat.succ.inj hbegun]
    | wait => cases hq

end RemoteConsole
