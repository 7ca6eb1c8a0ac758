import RemoteConsole.Proofs.Listener.Looks
import RemoteConsole.Proofs.Stream.Ending

/-!
# A stream and one who listens to it

The driver sends the events that it publishes one by one, and drops the sender when it is over. One
who listens calls for them at any pace.

* `Stream.told`: the events that were published. `last_told`: the end is the last of them.
* `Relay`: a stream, the broadcast of its events, and a listener. `Relay.Step`: the stream takes a
  step, an event is sent, the sender is dropped, or the listener takes a step, in any order.
* `Relay.Sound`: what holds of broadcast and listener. `Sound.step` keeps it.
* `Relay.PassedOver`: a look has passed over an event that was no longer kept.
* `Relay.Heard places`: the listener was answered with the events at these places, and all others
  before its own place were passed over. `Heard.step`: what a step adds to the places.
* `Relay.end_heard`: what calls for events are answered, and that the end is not missed.
-/

namespace RemoteConsole

namespace Stream

variable {plan : Plan} {s s' : Stream} {reason : CloseReason}

/-- The events that were published, in order. -/
def told (s : Stream) : List Event := s.published.map (·.event)

theorem closings_eq (s : Stream) : s.closings = Event.closings s.told := by
  unfold closings Event.closings told
  rw [List.filterMap_map]
  rfl

theorem told_step (hs : Step plan s s') : s.told <+: s'.told := (published_step hs).map _

/-- A driver that is over publishes nothing more. -/
theorem over_step (hover : s.isOver = true) (hs : Step plan s s') :
    s'.isOver = true ∧ s'.told = s.told := by
  cases hs with
  | driver hm =>
    have hnone : s.moveDriver plan = none := by
      unfold isOver at hover
      unfold moveDriver
      cases hstage : s.stage <;> simp_all
    cases hnone.symm.trans hm
  | worker hm =>
    obtain ⟨poller, scene, -, rfl⟩ := moveWorker_eq hm
    exact ⟨hover, rfl⟩
  | turn | time | close => exact ⟨hover, rfl⟩

/-- A stream that has told of its end publishes nothing more. -/
theorem HasTold.told_eq (h : HasTold reason s) (hs : Step plan s s') : s'.told = s.told := by
  cases hs with
  | driver hm =>
    rcases h.stage with hs | hs | ⟨hs, -⟩
    · rw [(DriverMove.close hs).eq hm]
      rfl
    · rw [(DriverMove.leave hs).eq hm]
      rfl
    · rw [moveDriver, hs] at hm
      cases hm
  | worker hm =>
    obtain ⟨poller, scene, -, rfl⟩ := moveWorker_eq hm
    rfl
  | turn | time | close => rfl

/-- The end comes last among the events of a lifecycle that closes. -/
theorem Closes.last (h : s.Closes) : ∃ earlier reason, s.told = earlier ++ [.closed reason] := by
  obtain ⟨t, ht, rfl⟩ := h
  rw [t.lifecycle.close_eq ht.lifecycle.phase]
  unfold told proceed publish
  dsimp only
  rw [List.map_append, List.map_map, List.map_append, ← List.append_assoc,
    List.map_cons, List.map_singleton, List.append_cons]
  exact ⟨_, _, rfl⟩

/-- The end is the last event that a stream tells. -/
theorem last_told (h : s.Untold) (hr : Reach plan s s') (hmem : reason ∈ s'.closings) :
    ∃ earlier, s'.told = earlier ++ [.closed reason] := by
  have hlast : s'.Untold ∨
      ∃ earlier reason, HasTold reason s' ∧ s'.told = earlier ++ [.closed reason] := by
    clear hmem
    induction hr with
    | refl => exact .inl h
    | tail _ hs ih =>
      rcases ih with hu | ⟨earlier, reason, htold, hlast⟩
      · refine (hu.step_closes hs).imp_right fun hcloses => ?_
        obtain ⟨reason, htold⟩ := hcloses.hasTold
        obtain ⟨earlier, last, hlast⟩ := hcloses.last
        have hone := htold.closings
        rw [closings_eq, hlast, Event.closings, List.filterMap_append] at hone
        have hsame : last = reason := by simpa [Event.closing?] using congrArg List.getLast? hone
        exact ⟨earlier, reason, htold, hsame ▸ hlast⟩
      · exact .inr ⟨earlier, reason, htold.step hs, (htold.told_eq hs).trans hlast⟩
  rcases hlast with hu | ⟨earlier, last, htold, hlast⟩
  · rw [hu.closings] at hmem
    cases hmem
  · rw [htold.closings, List.mem_singleton] at hmem
    exact ⟨earlier, hmem ▸ hlast⟩

end Stream

/-- A stream, the broadcast of its events, and one who listens to it. -/
structure Relay where
  stream : Stream
  broadcast : Broadcast Event
  listener : Listener

namespace Relay

/-- The stream is about to run, and the listener is there from its start. -/
def start (capacity : Nat) (s : Stream) : Relay := ⟨s, .ofCapacity capacity, .fresh⟩

/-- The steps of a stream and of one who listens to it, in any order. The driver may be any number
of events behind with sending; it drops the sender when it is over and all is sent. -/
inductive Step (plan : Plan) : Relay → Relay → Prop
  | stream {r : Relay} {s : Stream} (h : Stream.Step plan r.stream s) :
      Step plan r { r with stream := s }
  | send {r : Relay} {e : Event} (h : r.stream.told[r.broadcast.sent.length]? = some e) :
      Step plan r { r with broadcast := r.broadcast.send e }
  | leave {r : Relay} (hover : r.stream.isOver = true) (hall : r.broadcast.sent = r.stream.told) :
      Step plan r { r with broadcast := r.broadcast.close }
  | listen {r : Relay} {l : Listener}
      (h : Listener.Step plan.setting.session r.broadcast r.listener l) :
      Step plan r { r with listener := l }

/-- What these steps lead to. -/
abbrev Reach (plan : Plan) : Relay → Relay → Prop := Relation.ReflTransGen (Step plan)

variable {plan : Plan} {r₀ r r' : Relay} {i : Nat} {places : List Nat}

/-- The steps of the stream in a run with a listener. -/
theorem stream_reach (hr : Reach plan r r') : Stream.Reach plan r.stream r'.stream := by
  induction hr with
  | refl => exact .refl
  | tail _ hs ih =>
    cases hs with
    | stream h => exact ih.tail h
    | send | leave | listen => exact ih

/-- The stream goes on, with nothing sent. -/
theorem reach_stream {s : Stream} (h : Stream.Reach plan r.stream s) :
    Reach plan r { r with stream := s } := by
  induction h with
  | refl => exact .refl
  | tail _ hs ih => exact ih.tail (.stream hs)

/-- The listener goes on by itself. -/
theorem reach_listen {l : Listener}
    (h : Listener.Reach plan.setting.session r.broadcast r.listener l) :
    Reach plan r { r with listener := l } := by
  induction h with
  | refl => exact .refl
  | tail _ hs ih => exact ih.tail (.listen hs)

/-! ## What holds in every run -/

/-- What was sent is what was told, up to some event; the listener has come to one of them. Once
the sender is gone there is nothing left to send, and only who has come to the end was told that
there is no more. -/
structure Sound (capacity : Nat) (r : Relay) : Prop where
  kept : r.broadcast.capacity = capacity
  sent : r.broadcast.sent <+: r.stream.told
  gone : r.broadcast.isClosed = true → r.stream.isOver = true ∧ r.broadcast.sent = r.stream.told
  next : r.listener.next ≤ r.broadcast.sent.length
  ended : none ∈ r.listener.answers →
    r.broadcast.isClosed = true ∧ r.listener.next = r.broadcast.sent.length
  answers : ∃ ends, r.listener.answers = r.listener.events.map some ++ List.replicate ends none

namespace Sound

variable {capacity : Nat}

theorem start (capacity : Nat) (s : Stream) :
    (Relay.start capacity s).Sound capacity.nextPowerOfTwo where
  kept := rfl
  sent := List.nil_prefix
  gone h := by cases h
  next := Nat.le_refl 0
  ended h := by cases h
  answers := ⟨0, rfl⟩

/-- As long as there is something to send, the sender is there, and no call was told that there is
no more. -/
theorem open_of_told (h : r.Sound capacity) {e : Event}
    (he : r.stream.told[r.broadcast.sent.length]? = some e) : r.broadcast.isClosed = false := by
  refine Bool.eq_false_iff.mpr fun hclosed => ?_
  rw [(h.gone hclosed).2, List.getElem?_eq_none (Nat.le_refl _)] at he
  cases he

/-- As long as the listener has an event before it, no call was told that there is no more. -/
theorem not_ended (h : r.Sound capacity) (hlt : r.listener.next < r.broadcast.sent.length) :
    none ∉ r.listener.answers := fun hnone => Nat.ne_of_lt hlt (h.ended hnone).2

theorem answers_of_not_ended (h : r.Sound capacity) (hnone : none ∉ r.listener.answers) :
    r.listener.answers = r.listener.events.map some := by
  obtain ⟨ends, hends⟩ := h.answers
  cases ends with
  | zero => simpa using hends
  | succ ends => exact absurd (hends ▸ by simp) hnone

theorem look (h : r.Sound capacity) {session : SessionId} {l : Listener}
    (hlook : r.listener.look session r.broadcast = some l) :
    Sound capacity { r with listener := l } := by
  rcases Listener.look_cases hlook with ⟨hlag, rfl⟩ | ⟨e, -, he, rfl⟩ | ⟨hall, hclosed, rfl⟩
  · have hlt := Nat.lt_of_lt_of_le hlag r.broadcast.dropped_le
    exact { h with
      next := r.broadcast.dropped_le
      ended := fun hnone => absurd hnone (h.not_ended hlt) }
  · have hlt := (List.getElem?_eq_some_iff.mp he).1
    have hnone := h.not_ended hlt
    refine { h with next := hlt, ended := fun hmem => ?_, answers := ⟨0, ?_⟩ }
    · exact absurd (by simpa [Listener.answer] using hmem) hnone
    · rw [Listener.events_answer]
      show r.listener.answers ++ [some e] = (r.listener.events ++ [e]).map some ++ []
      rw [h.answers_of_not_ended hnone, List.map_append, List.append_nil]
      rfl
  · obtain ⟨ends, hends⟩ := h.answers
    refine { h with
      ended := fun _ => ⟨hclosed, Nat.le_antisymm h.next hall⟩
      answers := ⟨ends + 1, ?_⟩ }
    rw [Listener.events_answer, List.replicate_succ', ← List.append_assoc]
    simp [Listener.answer, hends]

theorem step (h : r.Sound capacity) (hs : Step plan r r') : r'.Sound capacity := by
  cases hs with
  | stream hs =>
    refine { h with sent := h.sent.trans (Stream.told_step hs), gone := fun hclosed => ?_ }
    obtain ⟨hover, hall⟩ := h.gone hclosed
    obtain ⟨hover', htold⟩ := Stream.over_step hover hs
    exact ⟨hover', hall.trans htold.symm⟩
  | @send e he =>
    have hopen := h.open_of_told he
    refine ⟨h.kept, ?_, fun hclosed => ?_, ?_, fun hnone => ?_, h.answers⟩
    · obtain ⟨later, hlater⟩ := h.sent
      rw [← hlater, List.getElem?_append_right (Nat.le_refl _), Nat.sub_self] at he
      cases later with
      | nil => cases he
      | cons e' later =>
        cases he
        exact ⟨later, by simp [Broadcast.send, ← hlater]⟩
    · cases hopen.symm.trans hclosed
    · simp only [Broadcast.send, List.length_append]
      exact Nat.le_add_right_of_le h.next
    · cases hopen.symm.trans (h.ended hnone).1
  | leave hover hall =>
    exact { h with gone := fun _ => ⟨hover, hall⟩, ended := fun hnone => ⟨rfl, (h.ended hnone).2⟩ }
  | listen hs =>
    cases hs with
    | call | giveUp => exact ⟨h.kept, h.sent, h.gone, h.next, h.ended, h.answers⟩
    | look _ hlook => exact h.look hlook

theorem reach (h : r.Sound capacity) (hr : Reach plan r r') : r'.Sound capacity := by
  induction hr with
  | refl => exact h
  | tail _ hs ih => exact ih.step hs

end Sound

/-- Nothing holds up a driver that is over: it sends what is left to send, and drops the sender. -/
theorem reach_leave {capacity : Nat} (h : r.Sound capacity) (hover : r.stream.isOver = true) :
    Reach plan r { r with broadcast := ⟨r.broadcast.capacity, r.stream.told, true⟩ } := by
  obtain ⟨later, hlater⟩ := h.sent
  induction later generalizing r with
  | nil =>
    rw [List.append_nil] at hlater
    rw [← hlater]
    exact .single (.leave hover hlater)
  | cons e later ih =>
    have he : r.stream.told[r.broadcast.sent.length]? = some e := by simp [← hlater]
    have hs : Step plan r { r with broadcast := r.broadcast.send e } := .send he
    exact .head hs (ih (h.step hs) hover (by simp [Broadcast.send, ← hlater]))

/-! ## What was heard, and what was missed -/

/-- A look has passed over the event at a place: as many later ones had been sent as are kept. -/
def PassedOver (plan : Plan) (r₀ r : Relay) (i : Nat) : Prop :=
  ∃ r₁ l, Reach plan r₀ r₁ ∧
    r₁.listener.look plan.setting.session r₁.broadcast = some l ∧
    Reach plan { r₁ with listener := l } r ∧
    r₁.listener.next ≤ i ∧ i < l.next ∧ i + r₁.broadcast.capacity < r₁.broadcast.sent.length

theorem PassedOver.tail (h : PassedOver plan r₀ r i) (hs : Step plan r r') :
    PassedOver plan r₀ r' i := by
  obtain ⟨r₁, l, hbefore, hlook, hafter, hplace⟩ := h
  exact ⟨r₁, l, hbefore, hlook, hafter.tail hs, hplace⟩

/-- The listener was answered with the events at the places, in order, and all others before its own
place were passed over. -/
structure Heard (plan : Plan) (r₀ r : Relay) (places : List Nat) : Prop where
  sorted : places.Pairwise (· < ·)
  below : ∀ i ∈ places, i < r.listener.next
  events : r.listener.events.map some = places.map fun i => r.broadcast.sent[i]?
  missed : ∀ i < r.listener.next, i ∉ places → PassedOver plan r₀ r i

namespace Heard

/-- A step that leaves the listener's place and its answers alone. -/
theorem still (h : Heard plan r₀ r places) (hs : Step plan r r')
    (hnext : r'.listener.next = r.listener.next)
    (hevents : r'.listener.events = r.listener.events)
    (hsent : ∀ i < r.listener.next, r'.broadcast.sent[i]? = r.broadcast.sent[i]?) :
    Heard plan r₀ r' places where
  sorted := h.sorted
  below i hi := hnext ▸ h.below i hi
  events := by
    rw [hevents, h.events]
    exact List.map_congr_left fun i hi => (hsent i (h.below i hi)).symm
  missed i hi hnot := (h.missed i (hnext ▸ hi) hnot).tail hs

theorem look (hr : Reach plan r₀ r) (h : Heard plan r₀ r places) {l : Listener}
    (hcalling : r.listener.isCalling = true)
    (hlook : r.listener.look plan.setting.session r.broadcast = some l) :
    ∃ places, Heard plan r₀ { r with listener := l } places := by
  have hs : Step plan r { r with listener := l } := .listen (.look hcalling hlook)
  rcases Listener.look_cases hlook with ⟨hlag, rfl⟩ | ⟨e, -, he, rfl⟩ | ⟨-, -, rfl⟩
  · refine ⟨places, h.sorted, fun i hi => (h.below i hi).trans hlag, h.events, fun i hi hnot => ?_⟩
    by_cases hbefore : i < r.listener.next
    · exact (h.missed i hbefore hnot).tail hs
    · exact ⟨r, _, hr, hlook, .refl, Nat.not_lt.mp hbefore, hi, Broadcast.lt_dropped_iff.mp hi⟩
  · refine ⟨places ++ [r.listener.next], ?_, ?_, ?_, ?_⟩
    · simpa [List.pairwise_append] using ⟨h.sorted, h.below⟩
    · simp only [List.mem_append, List.mem_singleton]
      rintro i (hi | rfl)
      · exact Nat.lt_succ_of_lt (h.below i hi)
      · exact Nat.lt_succ_self _
    · rw [Listener.events_answer, List.map_append, List.map_append]
      simp only [Option.toList_some, List.map_singleton]
      rw [he]
      exact congrArg (· ++ _) h.events
    · intro i hi hnot
      simp only [List.mem_append, List.mem_singleton, not_or] at hnot
      have hlt : i < r.listener.next := Nat.lt_of_le_of_ne (Nat.lt_succ_iff.mp hi) hnot.2
      exact (h.missed i hlt hnot.1).tail hs
  · refine ⟨places, h.still hs rfl ?_ fun _ _ => rfl⟩
    rw [Listener.events_answer]
    exact List.append_nil _

theorem step {capacity : Nat} (hr : Reach plan r₀ r) (hsound : r.Sound capacity)
    (h : Heard plan r₀ r places) (hs : Step plan r r') : ∃ places, Heard plan r₀ r' places := by
  cases hs with
  | stream hstep => exact ⟨places, h.still (.stream hstep) rfl rfl fun _ _ => rfl⟩
  | send he =>
    refine ⟨places, h.still (.send he) rfl rfl fun i hi => ?_⟩
    exact List.getElem?_append_left (Nat.lt_of_lt_of_le hi hsound.next)
  | leave hover hall => exact ⟨places, h.still (.leave hover hall) rfl rfl fun _ _ => rfl⟩
  | listen hstep =>
    cases hstep with
    | call hidle => exact ⟨places, h.still (.listen (.call hidle)) rfl rfl fun _ _ => rfl⟩
    | giveUp => exact ⟨places, h.still (.listen .giveUp) rfl rfl fun _ _ => rfl⟩
    | look hcalling hlook => exact look hr h hcalling hlook

theorem start (plan : Plan) (capacity : Nat) (s : Stream) :
    Heard plan (Relay.start capacity s) (Relay.start capacity s) [] where
  sorted := .nil
  below i hi := by cases hi
  events := rfl
  missed i hi := by cases hi

end Heard

theorem heard_reach {capacity : Nat} {s : Stream} (hr : Reach plan (start capacity s) r) :
    ∃ places, Heard plan (start capacity s) r places := by
  induction hr with
  | refl => exact ⟨[], .start plan capacity s⟩
  | tail hbefore hs ih =>
    obtain ⟨places, h⟩ := ih
    exact h.step hbefore ((Sound.start capacity s).reach hbefore) hs

/-! ## Main statement -/

/-- Of all that was told, only the events that were passed over are missing among the answers. -/
theorem Heard.told {capacity : Nat} (h : Heard plan r₀ r places) (hsound : r.Sound capacity) :
    (∀ i ∈ places, i < r.listener.next) ∧
      r.listener.events.map some = places.map fun i => r.stream.told[i]? := by
  refine ⟨h.below, h.events.trans (List.map_congr_left fun i hi => ?_)⟩
  obtain ⟨later, hlater⟩ := hsound.sent
  rw [← hlater, List.getElem?_append_left (Nat.lt_of_lt_of_le (h.below i hi) hsound.next)]

/-- What was sent once is among all that was told later. -/
theorem Sound.sent_le {capacity : Nat} (h : r.Sound capacity) (hr : Reach plan r r') :
    r.broadcast.sent.length ≤ r'.stream.told.length := by
  have htold : r.stream.told <+: r'.stream.told :=
    (Stream.published_reach (stream_reach hr)).map _
  exact (h.sent.trans htold).length_le

/-- The greatest number of a list that goes up is its last. -/
theorem getLast?_of_sorted {n : Nat} (hsorted : places.Pairwise (· < ·))
    (hbelow : ∀ i ∈ places, i ≤ n) (hmem : n ∈ places) : places.getLast? = some n := by
  rcases places.eq_nil_or_concat with rfl | ⟨init, last, rfl⟩
  · cases hmem
  · rw [List.concat_eq_append] at *
    rw [List.getLast?_concat]
    rw [List.pairwise_append] at hsorted
    rcases List.mem_append.mp hmem with hn | hn
    · have hlt := hsorted.2.2 n hn last (by simp)
      have hle := hbelow last (by simp)
      omega
    · rw [List.mem_singleton.mp hn]

/-- One who has come to the end of what was told was answered with the last of it: nothing came
later that could have displaced it. -/
theorem Heard.last {capacity : Nat} (h : Heard plan r₀ r places) (hsound₀ : r₀.Sound capacity)
    (hsound : r.Sound capacity) (hpos : 0 < capacity) {earlier : List Event} {e : Event}
    (htold : r.stream.told = earlier ++ [e]) (hall : r.listener.next = r.stream.told.length) :
    r.listener.events.getLast? = some e := by
  have hlength : r.stream.told.length = earlier.length + 1 := by simp [htold]
  have hmem : earlier.length ∈ places := by
    by_contra hnot
    obtain ⟨r₁, l, hbefore, hlook, hafter, hle, hlt, hlate⟩ :=
      h.missed earlier.length (by omega) hnot
    have hsound₁ := hsound₀.reach hbefore
    have hsent := (hsound₁.look hlook).sent_le hafter
    rw [hsound₁.kept] at hlate
    dsimp only at hsent
    omega
  have hlast := getLast?_of_sorted h.sorted
    (fun i hi => by have := h.below i hi; omega) hmem
  have hevents := congrArg List.getLast? (h.told hsound).2
  rw [List.getLast?_map, List.getLast?_map, hlast, htold] at hevents
  simpa using hevents

/-- Whatever the pace at which the driver sends and one who listens calls for the next event: the
answers are events that were told, in their order and each at most once, and after them only that
there will be no more. An event is missing only if a look has passed over it when as many later ones
had been sent as the broadcast keeps. A call waits only when it has come to all that was sent and
more may be. That there will be no more is the answer only after the stream is over and all that was
told is behind the listener, with the end, if it was told, as the last event; and one who goes on
calling after the sender has gone comes to this answer. -/
theorem end_heard {c : Client} {isThreaded : Bool} {scene : Scene} {s₀ : Stream} {r : Relay}
    (hstart : c.start isThreaded .empty = (.ok s₀, scene))
    (hr : Reach c.plan (start c.options.eventCapacity.toNat s₀) r) :
    r.broadcast.capacity = c.options.eventCapacity.toNat.nextPowerOfTwo ∧
    (∃ ends, r.listener.answers = r.listener.events.map some ++ List.replicate ends none) ∧
    (∃ places : List Nat, places.Pairwise (· < ·) ∧ (∀ i ∈ places, i < r.listener.next) ∧
      r.listener.events.map some = places.map (fun i => r.stream.told[i]?) ∧
      ∀ i < r.listener.next, i ∉ places →
        PassedOver c.plan (start c.options.eventCapacity.toNat s₀) r i) ∧
    (r.listener.look c.setting.session r.broadcast = none →
      r.listener.next = r.broadcast.sent.length ∧ r.broadcast.isClosed = false) ∧
    (none ∈ r.listener.answers → r.stream.isOver = true ∧
      r.listener.next = r.stream.told.length ∧
      ∀ reason ∈ r.stream.closings, r.listener.events.getLast? = some (.closed reason)) ∧
    (r.broadcast.isClosed = true →
      ∃ l, Listener.Reach c.setting.session r.broadcast r.listener l ∧ none ∈ l.answers ∧
        ∀ reason ∈ r.stream.closings, l.events.getLast? = some (.closed reason)) := by
  have hsound₀ := Sound.start c.options.eventCapacity.toNat s₀
  have hpos : 0 < c.options.eventCapacity.toNat.nextPowerOfTwo :=
    Nat.pos_of_isPowerOfTwo (Nat.isPowerOfTwo_nextPowerOfTwo _)
  -- the answer that there is no more, in this run and in any that goes on
  have hend : ∀ r', Reach c.plan (start c.options.eventCapacity.toNat s₀) r' →
      none ∈ r'.listener.answers → r'.stream.isOver = true ∧
        r'.listener.next = r'.stream.told.length ∧
        ∀ reason ∈ r'.stream.closings, r'.listener.events.getLast? = some (.closed reason) := by
    intro r' hr' hnone
    have hsound := hsound₀.reach hr'
    obtain ⟨hclosed, hnext⟩ := hsound.ended hnone
    obtain ⟨hover, hall⟩ := hsound.gone hclosed
    rw [hall] at hnext
    refine ⟨hover, hnext, fun reason hmem => ?_⟩
    obtain ⟨earlier, htold⟩ :=
      Stream.last_told (Stream.untold_start hstart) (stream_reach hr') hmem
    obtain ⟨places, hheard⟩ := heard_reach hr'
    exact hheard.last hsound₀ hsound hpos htold hnext
  have hsound := hsound₀.reach hr
  obtain ⟨places, hheard⟩ := heard_reach hr
  obtain ⟨hbelow, hevents⟩ := hheard.told hsound
  refine ⟨hsound.kept, hsound.answers, ⟨places, hheard.sorted, hbelow, hevents, hheard.missed⟩,
    fun hwaits => ?_, hend r hr, fun hclosed => ?_⟩
  · obtain ⟨hall, hopen⟩ := Listener.look_eq_none_iff.mp hwaits
    exact ⟨Nat.le_antisymm hsound.next hall, hopen⟩
  · obtain ⟨l, hreach, hnone⟩ := Listener.reach_ended c.setting.session hclosed hsound.next
    have hon : Reach c.plan r { r with listener := l } := reach_listen hreach
    exact ⟨l, hreach, hnone, (hend _ (hr.trans hon) hnone).2.2⟩

/-- A broadcast keeps one event. Its listener first calls when the stream is over: it has missed all
events but the end. -/
theorem end_heard_late :
    let served := Client.served (.answer (.ok none)) .never
    let c := { served with options := { served.options with eventCapacity := 1 } }
    let s₀ := Stream.ofOptions c.options .direct .empty
    ∃ r, Reach c.plan (start 1 s₀) r ∧ r.stream.closings = [.serverClosed] ∧
      r.listener.answers = [some (.closed .serverClosed), none] ∧
      r.listener.records = [Listener.lagRecord ⟨"console"⟩ 3] ∧
      r.listener.next = r.stream.told.length ∧
      r.listener.events.getLast? = some (.closed .serverClosed) ∧
      PassedOver c.plan (start 1 s₀) r 0 := by
  intro served c s₀
  have hstart : c.start false .empty = (.ok s₀, .empty) := rfl
  have hrun := Rehearsal.reach_runUntil c.plan 1000 100 10 ⟨s₀, true, true, []⟩
  generalize hs : (Rehearsal.runUntil c.plan 1000 100 10 ⟨s₀, true, true, []⟩).1.stream = s at hrun
  let told : List Event := [.phaseChanged .idle .polling, .phaseChanged .polling .delivering,
    .phaseChanged .delivering .closed, .closed .serverClosed]
  have htold : s.told = told := by
    rw [← hs]
    decide +kernel
  have hover : s.isOver = true := by
    rw [← hs]
    decide +kernel
  have hcapacity : (start 1 s₀).broadcast.capacity = 1 := by decide +kernel
  have hsent := (reach_stream hrun).trans
    (reach_leave ((Sound.start 1 s₀).reach (reach_stream hrun)) hover)
  dsimp only at hsent
  rw [hcapacity, htold] at hsent
  -- a call passes over three events and is answered, and so is the next one
  let l : Listener := ⟨4, false, [some (.closed .serverClosed), none],
    [Listener.lagRecord ⟨"console"⟩ 3]⟩
  have hcalls : Listener.Reach ⟨"console"⟩ ⟨1, told, true⟩ .fresh l :=
    .head (.call rfl) (.head (.look rfl rfl) (.head (.look rfl rfl)
      (.head (.call rfl) (.single (.look rfl rfl)))))
  have hr : Reach c.plan (start 1 s₀) ⟨s, ⟨1, told, true⟩, l⟩ := hsent.trans (reach_listen hcalls)
  obtain ⟨-, -, ⟨places, hsorted, hbelow, hevents, hmissed⟩, -, hend, -⟩ := end_heard hstart hr
  have hclosings : s.closings = [.serverClosed] := by
    rw [Stream.closings_eq, htold]
    rfl
  obtain ⟨-, hnext, hlast⟩ := hend (by simp [l])
  have hclosed := hlast .serverClosed (by simp [hclosings])
  -- the one answer is not the first event
  have hone : places.map (fun i => told[i]?) = [some (.closed .serverClosed)] := by
    rw [← htold]
    exact hevents.symm
  have hnot : 0 ∉ places := by
    intro h0
    have hmem := List.mem_map_of_mem (f := fun i => told[i]?) h0
    rw [hone] at hmem
    simp [told] at hmem
  exact ⟨_, hr, hclosings, rfl, rfl, hnext, hclosed, hmissed 0 (by simp [l]) hnot⟩

end Relay

end RemoteConsole
