import Mathlib.Logic.Relation
import RemoteConsole.Listener

/-!
# What calls for events come to

* `Broadcast.position_cases`: where a receiver can be, with `receive_lag`, `receive_message` and
  `receive_rest` for what it gets there.
* `Listener.look_cases`: the ways in which a look at the broadcast can go. `look_eq_none_iff`: a
  call has to wait if and only if it has come to the end of what was sent and more may be.
* `Listener.Step`: a call begins, looks, or is given up, while nothing is sent.
* `Listener.reach_receiveUpTo`: one who calls again after each answer gets what a receiver does who
  takes all that there is. `reach_ended`: once the sender is gone, this leads to the last answer.
-/

namespace RemoteConsole

namespace Broadcast

variable {α : Type} {b : Broadcast α} {next : Nat}

theorem dropped_le (b : Broadcast α) : b.dropped ≤ b.sent.length := Nat.sub_le ..

/-- A message that is no longer kept has as many behind it as are kept. -/
theorem lt_dropped_iff {i : Nat} : i < b.dropped ↔ i + b.capacity < b.sent.length := by
  unfold dropped; omega

/-- A receiver missed something, or the next message is there, or it has seen all. -/
theorem position_cases (b : Broadcast α) (next : Nat) :
    next < b.dropped ∨ (∃ a, b.dropped ≤ next ∧ b.sent[next]? = some a) ∨
      b.sent.length ≤ next := by
  by_cases hlag : next < b.dropped
  · exact .inl hlag
  · by_cases hall : b.sent.length ≤ next
    · exact .inr (.inr hall)
    · exact .inr (.inl ⟨_, Nat.not_lt.mp hlag, List.getElem?_eq_getElem (Nat.not_le.mp hall)⟩)

theorem receive_lag (h : next < b.dropped) :
    b.receive next = (.lagged (b.dropped - next), b.dropped) := by
  simp [receive, h]

theorem receive_message {a : α} (hkept : b.dropped ≤ next) (ha : b.sent[next]? = some a) :
    b.receive next = (.message a, next + 1) := by
  simp [receive, Nat.not_lt.mpr hkept, ha]

theorem receive_rest (h : b.sent.length ≤ next) :
    b.receive next = (if b.isClosed then .ended else .nothing, next) := by
  have hkept : ¬ next < b.dropped := Nat.not_lt.mpr (Nat.le_trans b.dropped_le h)
  simp [receive, hkept, List.getElem?_eq_none h]

/-- A receiver that takes all that there is comes to the end of what was sent: each of its steps
brings it further. -/
theorem receiveUpTo_next (steps : Nat) (hnext : next ≤ b.sent.length)
    (hsteps : b.sent.length - next ≤ steps) : (b.receiveUpTo steps next).2 = b.sent.length := by
  induction steps generalizing next with
  | zero =>
    rw [receiveUpTo]
    omega
  | succ steps ih =>
    have hdropped := b.dropped_le
    rcases b.position_cases next with hlag | ⟨a, hkept, ha⟩ | hall
    · simp only [receiveUpTo, receive_lag hlag]
      exact ih hdropped (by omega)
    · have hlt : next < b.sent.length := (List.getElem?_eq_some_iff.mp ha).1
      simp only [receiveUpTo, receive_message hkept ha]
      exact ih hlt (by omega)
    · simp only [receiveUpTo, receive_rest hall]
      cases b.isClosed <;> exact Nat.le_antisymm hnext hall

end Broadcast

namespace Listener

variable {session : SessionId} {b : Broadcast Event} {l l' : Listener}

theorem events_answer (l : Listener) (a : Option Event) :
    (l.answer a).events = l.events ++ a.toList := by
  unfold events answer
  cases a <;> simp

/-! ## One look -/

theorem look_lag (hlag : l.next < b.dropped) :
    l.look session b = some { l with
      next := b.dropped
      records := l.records ++ [lagRecord session (b.dropped - l.next)] } := by
  rw [look, Broadcast.receive_lag hlag]

theorem look_event {e : Event} (hkept : b.dropped ≤ l.next) (he : b.sent[l.next]? = some e) :
    l.look session b = some ({ l with next := l.next + 1 }.answer (some e)) := by
  rw [look, Broadcast.receive_message hkept he]

theorem look_rest (hall : b.sent.length ≤ l.next) :
    l.look session b = if b.isClosed then some (l.answer none) else none := by
  rw [look, Broadcast.receive_rest hall]
  cases b.isClosed <;> rfl

/-- The ways in which a look can go that need not wait. -/
theorem look_cases (h : l.look session b = some l') :
    (l.next < b.dropped ∧ l' = { l with
      next := b.dropped
      records := l.records ++ [lagRecord session (b.dropped - l.next)] }) ∨
    (∃ e, b.dropped ≤ l.next ∧ b.sent[l.next]? = some e ∧
      l' = { l with next := l.next + 1 }.answer (some e)) ∨
    b.sent.length ≤ l.next ∧ b.isClosed = true ∧ l' = l.answer none := by
  rcases b.position_cases l.next with hlag | ⟨e, hkept, he⟩ | hall
  · rw [look_lag hlag] at h
    exact .inl ⟨hlag, (Option.some.inj h).symm⟩
  · rw [look_event hkept he] at h
    exact .inr (.inl ⟨e, hkept, he, (Option.some.inj h).symm⟩)
  · rw [look_rest hall] at h
    split at h
    · next hclosed => exact .inr (.inr ⟨hall, hclosed, (Option.some.inj h).symm⟩)
    · cases h

/-- A call has to wait if it has come to the end of what was sent, and more may be sent. -/
theorem look_eq_none_iff :
    l.look session b = none ↔ b.sent.length ≤ l.next ∧ b.isClosed = false := by
  rcases b.position_cases l.next with hlag | ⟨e, hkept, he⟩ | hall
  · have hdropped := b.dropped_le
    rw [look_lag hlag]
    simp only [reduceCtorEq, false_iff]
    omega
  · have hlt := (List.getElem?_eq_some_iff.mp he).1
    rw [look_event hkept he]
    simp only [reduceCtorEq, false_iff]
    omega
  · rw [look_rest hall]
    cases b.isClosed <;> simp [hall]

/-! ## Calls in a row -/

/-- A call begins, looks at the broadcast, or is given up. -/
inductive Step (session : SessionId) (b : Broadcast Event) (l : Listener) : Listener → Prop
  | call (h : l.isCalling = false) : Step session b l l.call
  | look {l' : Listener} (h : l.isCalling = true) (hlook : l.look session b = some l') :
      Step session b l l'
  | giveUp : Step session b l l.giveUp

/-- What these steps lead to while nothing is sent. -/
abbrev Reach (session : SessionId) (b : Broadcast Event) : Listener → Listener → Prop :=
  Relation.ReflTransGen (Step session b)

/-- A call is under way, or can begin. -/
theorem reach_call (session : SessionId) (b : Broadcast Event) (l : Listener) :
    Reach session b l l.call := by
  by_cases h : l.isCalling = true
  · have hsame : l.call = l := by unfold call; rw [← h]
    rw [hsame]
  · exact .single (.call (Bool.eq_false_iff.mpr h))

/-- The messages among what a receiver got. -/
def messagesOf (rs : List (Received Event)) : List Event :=
  rs.filterMap fun
    | .message e => some e
    | .lagged _ => none
    | .nothing => none
    | .ended => none

/-- The records about what a receiver missed. -/
def lagRecordsOf (session : SessionId) (rs : List (Received Event)) : List Log.Record :=
  rs.filterMap fun
    | .message _ => none
    | .lagged skipped => some (lagRecord session skipped)
    | .nothing => none
    | .ended => none

/-- One who calls again after each answer gets the messages of a receiver that takes all that there
is, and writes what that receiver missed. -/
theorem reach_receiveUpTo (session : SessionId) (b : Broadcast Event) (steps : Nat)
    (l : Listener) :
    ∃ l', Reach session b l l' ∧ l'.next = (b.receiveUpTo steps l.next).2 ∧
      l'.answers = l.answers ++ (messagesOf (b.receiveUpTo steps l.next).1).map some ∧
      l'.records = l.records ++ lagRecordsOf session (b.receiveUpTo steps l.next).1 := by
  induction steps generalizing l with
  | zero => exact ⟨l, .refl, rfl, (List.append_nil _).symm, (List.append_nil _).symm⟩
  | succ steps ih =>
    have hcall := reach_call session b l
    rcases b.position_cases l.next with hlag | ⟨e, hkept, he⟩ | hall
    · obtain ⟨l', hreach, hnext, hanswers, hrecords⟩ := ih _
      refine ⟨l', (hcall.tail (.look rfl (look_lag hlag))).trans hreach, ?_⟩
      simp only [Broadcast.receiveUpTo, Broadcast.receive_lag hlag]
      exact ⟨hnext, hanswers, by simp [hrecords, lagRecordsOf, call]⟩
    · obtain ⟨l', hreach, hnext, hanswers, hrecords⟩ := ih _
      refine ⟨l', (hcall.tail (.look rfl (look_event hkept he))).trans hreach, ?_⟩
      simp only [Broadcast.receiveUpTo, Broadcast.receive_message hkept he]
      exact ⟨hnext, by simp [hanswers, answer, messagesOf, call], hrecords⟩
    · refine ⟨_, hcall, ?_⟩
      simp only [Broadcast.receiveUpTo, Broadcast.receive_rest hall]
      cases b.isClosed <;> simp [messagesOf, lagRecordsOf, call]

/-- Once the sender is gone, one who goes on calling comes to the answer that there is no more. -/
theorem reach_ended (session : SessionId) (hclosed : b.isClosed = true)
    (hnext : l.next ≤ b.sent.length) :
    ∃ l', Reach session b l l' ∧ none ∈ l'.answers := by
  obtain ⟨l₁, hreach, hl₁, -⟩ := reach_receiveUpTo session b (b.sent.length - l.next) l
  rw [Broadcast.receiveUpTo_next _ hnext (Nat.le_refl _)] at hl₁
  have hlook : l₁.call.look session b = some (l₁.call.answer none) := by
    rw [look_rest (l := l₁.call) (Nat.le_of_eq hl₁.symm), if_pos hclosed]
  refine ⟨_, (hreach.trans (reach_call session b l₁)).tail (.look rfl hlook), ?_⟩
  simp [answer]

end Listener

end RemoteConsole
