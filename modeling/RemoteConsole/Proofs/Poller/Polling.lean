import RemoteConsole.Proofs.Poller.Moves
import RemoteConsole.Proofs.Worker.Duty

/-!
# Polls of all kinds

A poll fetches by itself, or has a worker started, sends it an order and waits for the reply.

* `Scene.record`: what a scene tells that does not depend on where fetches run.
* `Poller.Resting`: the shapes of a poller between two polls.
* `Poller.Polling server feed n duty`: the shapes of a poll for the outcome `n`, of either kind, at
  a `Duty`. There are no others.
* `Polling.move_cases`, `Polling.moveWorker`: every step of a poll or of a worker is a step of the
  duty, or changes nothing but the shape, and lowers the rank. Unless a time is waited for, the poll
  or the worker can take a step.
-/

namespace RemoteConsole

/-- The entry tells of a connection attempt. -/
def Entry.isConnected : Entry → Bool
  | .connected _ => true
  | .fetched _ => false
  | .suppressed => false
  | .unloaded _ => false
  | .closed => false

/-- The times of the fetches, the chunks that were converted, the items that were shown, and the
fetches and calls to hooks in order. -/
structure Record where
  begun : List Nat
  converted : List Chunk
  shown : List Item
  journal : List Entry
deriving Repr

namespace Record

/-- Nothing has happened. -/
def empty : Record := ⟨[], [], [], []⟩

/-- One more fetch has begun. -/
def fetch (r : Record) (session : SessionId) (now : Nat) : Record :=
  { r with begun := r.begun ++ [now], journal := r.journal ++ [.fetched session] }

end Record

/-- What a scene tells, apart from connection attempts. -/
def Scene.record (s : Scene) : Record :=
  ⟨s.begun, s.outlet.converted, s.outlet.shown,
    s.outlet.journal.filter fun e => !e.isConnected⟩

theorem Server.connect_record (server : Server) (s : Scene) :
    (server.connect s).2.record = s.record := by
  have hjournal : ((server.connect s).2.outlet.journal.filter fun e => !e.isConnected) =
      s.outlet.journal.filter fun e => !e.isConnected := by
    have hnote : ((s.note (.connected server.endpoint)).outlet.journal.filter
        fun e => !e.isConnected) = s.outlet.journal.filter fun e => !e.isConnected := by
      unfold Scene.note Outlet.note
      rw [List.filter_append]
      exact List.append_nil _
    unfold connect
    split
    · rfl
    · dsimp only
      split
      · exact hnote
      · exact hnote
  obtain ⟨hconverted, hshown⟩ := Prod.mk.inj (server.connect_content s)
  unfold Scene.record
  rw [server.connect_begun, hconverted, hshown, hjournal]

theorem Server.begin_record (server : Server) (now : Nat) (s : Scene) :
    (server.begin now s).2.record = s.record.fetch server.session now := by
  unfold Scene.record Record.fetch Server.begin Scene.note Outlet.note
  simp only [List.filter_append]
  rfl

namespace Poller

/-- The shapes of a poller between two polls, when `n` outcomes were consumed. -/
inductive Resting (server : Server) (feed : Feed) : Nat → Poller → Scene → Prop
  | direct {n : Nat} {s : Scene} (hs : s.calls = n) : Resting server feed n .direct s
  | pending {s : Scene} (hs : s.calls = 0) (hc : (server.connect s).1 = .ok ()) :
      Resting server feed 0 .pending s
  | running {n : Nat} {w : Worker} {s : Scene} (hw : Worker.Does server feed n s .idle w)
      (hcap : 0 < w.capacity) : Resting server feed n (.running w) s

/-- The shapes of a poll for the outcome `n`. -/
inductive Polling (server : Server) (feed : Feed) : Nat → Duty → Poller → Poll → Scene → Prop
  | fresh {n d : Nat} {p : Poller} {s : Scene} (hp : Resting server feed n p s) :
      Polling server feed n (.ordered d) p (.fresh d) s
  | delaying {n t : Nat} {s : Scene} (hs : s.calls = n) :
      Polling server feed n (.delaying t) .direct (.delaying t) s
  | fetching {n due : Nat} {s : Scene} (hs : s.calls = n + 1) :
      Polling server feed n (.fetching due) .direct
        (.fetching ⟨due, .answer (feed.answer n)⟩) s
  | sending {n d : Nat} {w : Worker} {s : Scene} (hw : Worker.Does server feed n s .idle w)
      (hcap : 0 < w.capacity) :
      Polling server feed n (.ordered d) (.running w) (.requesting (.sending d)) s
  | awaiting {n : Nat} {duty : Duty} {w : Worker} {s : Scene} (hd : duty ≠ .idle)
      (hw : Worker.Does server feed n s duty w) (hcap : 0 < w.capacity) :
      Polling server feed n duty (.running w) (.requesting .awaiting) s

/-- A bound for the steps of a poller by itself. -/
def rank : Poller → Nat
  | .running w => w.rank
  | .pending => 10
  | .direct => 0
  | .fallback => 0
  | .stopped => 0

end Poller

/-- A bound for the steps of a poll by itself. -/
def Poll.rank : Poll → Nat
  | .fresh _ => 10
  | .delaying _ => 3
  | .fetching _ => 2
  | .requesting (.sending _) => 5
  | .requesting .awaiting => 0

namespace Poller

variable {server : Server} {feed : Feed} {capacity n now : Nat} {duty : Duty}
  {p p' : Poller} {poll : Poll} {s s' : Scene}

/-- What leaves the stream does not matter to its poller. -/
theorem Resting.congr (h : Resting server feed n p s) (hcalls : s'.calls = s.calls)
    (hattempts : s'.attempts = s.attempts) : Resting server feed n p s' := by
  cases h with
  | direct hs => exact .direct (hcalls.trans hs)
  | pending hs hc => exact .pending (hcalls.trans hs) ((server.connect_congr hattempts).trans hc)
  | running hw hcap => exact .running (hw.congr hcalls hattempts) hcap

/-- A poller that was given up fetches by itself or not at all. -/
theorem Resting.stop_eq (h : Resting server feed n p s) : p.stop = .direct ∨ p.stop = .stopped := by
  cases h with
  | direct => exact .inl rfl
  | pending | running => exact .inr rfl

/-! ## The poll's side -/

/-- A poll that goes on goes on with its duty. -/
def GoesOn (server : Server) (feed : Feed) (n now : Nat) (duty : Duty) (before after : State) :
    Prop :=
  ∃ duty', Polling server feed n duty' after.1 after.2.1 after.2.2 ∧
    (duty' = duty ∧ after.2.2 = before.2.2 ∨
      Duty.Step server feed n now duty before.2.2 duty' after.2.2) ∧
    after.1.rank + after.2.1.rank < before.1.rank + before.2.1.rank

theorem goesOn_startDirect (hcall : server.call = feed.call) {d : Nat} (hs : s.calls = n) :
    GoesOn server feed n now (.ordered d) (.direct, .fresh d, s)
      (startDirect server now .direct d s) := by
  unfold startDirect
  split
  · next hd =>
    subst hd
    refine ⟨.fetching (now + feed.latency n), ?_, .inr .fetch, ?_⟩
    · unfold beginFetch
      dsimp only
      rw [Worker.begin_eq hcall now hs]
      exact .fetching (congrArg (· + 1) hs)
    · show 0 + 2 < 0 + 10
      decide
  · next hd =>
    refine ⟨_, .delaying hs, .inr (.delay hd), ?_⟩
    show 0 + 3 < 0 + 10
    decide

/-- What a fresh poll does first. -/
theorem Resting.start (hcall : server.call = feed.call) (hcap : 0 < capacity)
    (hlimit : capacity ≤ Worker.capacityLimit) {d : Nat} (h : Resting server feed n p s) :
    ∃ r, start server capacity now p d s = .moved r ∧
      GoesOn server feed n now (.ordered d) (p, .fresh d, s) r := by
  cases h with
  | direct hs => exact ⟨_, rfl, goesOn_startDirect hcall hs⟩
  | pending hs hc =>
    refine ⟨(.running (.spawned capacity), .fresh d, s), ?_, .ordered d, ?_, .inl ⟨rfl, rfl⟩, ?_⟩
    · unfold Poller.start spawn
      rw [Worker.spawn_fitting hcap hlimit]
    · exact .fresh (.running (Worker.does_spawned capacity hs hc) hcap)
    · show 4 * 1 + 0 + 10 < 10 + 10
      decide
  | @running _ w _ hw hwcap =>
    have hrequest : w.request d = .sending d := by
      have hout := hw.outstanding_iff
      unfold Worker.request
      exact if_neg fun ho => hout.mp ho rfl
    refine ⟨(.running w, .requesting (.sending d), s), ?_, .ordered d, .sending hw hwcap,
      .inl ⟨rfl, rfl⟩, ?_⟩
    · unfold Poller.start
      simp only [hrequest]
    · show w.rank + 5 < w.rank + 10
      omega

/-- A time that the poll or its worker waits for, and nothing else. -/
def WaitsFor (p : Poller) (poll : Poll) (t : Nat) : Prop :=
  poll.wake? = some t ∧ p.workerWake? = none ∨ poll.wake? = none ∧ p.workerWake? = some t

/-- What comes of a poll: it goes on, or hands on the outcome, or waits for its worker, which can
take a step, or for a time that is the one its duty names. -/
theorem Polling.move_cases (now : Nat) (hcall : server.call = feed.call) (hcap : 0 < capacity)
    (hlimit : capacity ≤ Worker.capacityLimit) (h : Polling server feed n duty p poll s) :
    (∃ r, move server capacity now (p, poll, s) = .moved r ∧
      GoesOn server feed n now duty (p, poll, s) r) ∨
    (∃ p' poll' s', move server capacity now (p, poll, s) = .ready (feed.answer n) (p', poll', s') ∧
      Resting server feed (n + 1) p' s' ∧ s'.record = s.record ∧
      ((∃ due, duty = .fetching due ∧ due ≤ now) ∨ duty = .answered)) ∨
    move server capacity now (p, poll, s) = .blocked ∧
      ((p.moveWorker server now s).isSome = true ∨
        ∃ t, now < t ∧ duty.wake? = some t ∧ WaitsFor p poll t) := by
  cases h with
  | fresh hp => exact .inl (hp.start hcall hcap hlimit)
  | @delaying t s hs =>
    by_cases ht : t ≤ now
    · refine .inl ⟨beginFetch server now .direct s, if_pos ht, .fetching (now + feed.latency n), ?_,
        .inr (.wake ht), ?_⟩
      · unfold beginFetch
        dsimp only
        rw [Worker.begin_eq hcall now hs]
        exact .fetching (congrArg (· + 1) hs)
      · show 0 + 2 < 0 + 3
        decide
    · exact .inr (.inr ⟨if_neg ht, .inr ⟨t, Nat.lt_of_not_le ht, rfl, .inl ⟨rfl, rfl⟩⟩⟩)
  | @fetching due s hs =>
    by_cases hd : due ≤ now
    · exact .inr (.inl ⟨_, _, _, if_pos hd, .direct hs, rfl, .inl ⟨due, rfl, hd⟩⟩)
    · exact .inr (.inr ⟨if_neg hd, .inr ⟨due, Nat.lt_of_not_le hd, rfl, .inl ⟨rfl, rfl⟩⟩⟩)
  | @sending d w s hw hwcap =>
    rcases Worker.does_moveRequest_sending d hw with
      ⟨w', hm, hw', hcap', -, hrank⟩ | ⟨hm, hfull⟩
    · refine .inl ⟨(.running w', .requesting .awaiting, s), ?_, .ordered d, ?_, .inl ⟨rfl, rfl⟩, ?_⟩
      · simp only [move, hm]
      · exact .awaiting (fun he => by cases he) hw' (hcap'.symm ▸ hwcap)
      · show w'.rank + 0 < w.rank + 5
        omega
    · refine .inr (.inr ⟨by simp only [move, hm], ?_⟩)
      have horders : w.orders ≠ [] := by
        intro hnil
        rw [hnil] at hfull
        exact hfull hwcap
      have hreplies : w.replies = [] := by cases hw <;> rfl
      rcases Worker.does_can_move now hw hwcap hreplies (.inl horders) with
        hmove | ⟨t, -, hidle, -⟩
      · refine .inl ?_
        simp only [Poller.moveWorker, Option.isSome_map]
        exact hmove
      · cases hidle
  | @awaiting n w s hd hw hwcap =>
    rcases Worker.does_moveRequest_awaiting hd hw with
      ⟨w', hm, rfl, hw', hcap', -⟩ | ⟨hm, hreplies⟩
    · refine .inr (.inl ⟨.running w', .requesting .awaiting, s, ?_, ?_, rfl, .inr rfl⟩)
      · simp only [move, hm]
      · exact .running hw' (hcap'.symm ▸ hwcap)
    · refine .inr (.inr ⟨by simp only [move, hm], ?_⟩)
      rcases Worker.does_can_move now hw hwcap hreplies (.inr hd) with
        hmove | ⟨t, ht, hduty, hwake⟩
      · refine .inl ?_
        simp only [Poller.moveWorker, Option.isSome_map]
        exact hmove
      · exact .inr ⟨t, ht, hduty, .inr ⟨rfl, hwake⟩⟩

/-! ## The worker's side -/

theorem moveWorker_running {w : Worker}
    (hm : (Poller.running w).moveWorker server now s = some (p', s')) :
    ∃ w', w.move server now s = some (w', s') ∧ p' = .running w' ∧ w'.capacity = w.capacity ∧
      w'.rank < w.rank := by
  obtain ⟨⟨w', s''⟩, hw, heq⟩ := Option.map_eq_some_iff.mp hm
  cases heq
  exact ⟨w', hw, rfl, (Worker.Move.of_move hw).capacity_eq, Worker.rank_lt_of_move hw⟩

/-- Between two polls a worker may connect, and nothing else. -/
theorem Resting.moveWorker (h : Resting server feed n p s)
    (hm : p.moveWorker server now s = some (p', s')) :
    Resting server feed n p' s' ∧ s' = (server.connect s).2 ∧ (server.connect s).1 = .ok () ∧
      p'.rank < p.rank := by
  cases h with
  | @running _ w _ hw hcap =>
    obtain ⟨w', hmove, rfl, hcap', hrank⟩ := moveWorker_running hm
    obtain ⟨hw', hs', hc⟩ := Worker.does_move_idle hw hmove
    exact ⟨.running hw' (hcap'.symm ▸ hcap), hs', hc, hrank⟩
  | direct | pending => cases hm

/-- A step of a worker is a step of the duty. -/
theorem Polling.moveWorker (hcall : server.call = feed.call)
    (hrow : feed.failuresInRow (n + 1) < 2 ^ 32) (h : Polling server feed n duty p poll s)
    (hm : p.moveWorker server now s = some (p', s')) :
    ∃ duty', Polling server feed n duty' p' poll s' ∧
      Duty.Step server feed n now duty s duty' s' ∧ p'.rank < p.rank := by
  cases h with
  | @fresh d p s hp =>
    obtain ⟨hp', rfl, hc, hrank⟩ := hp.moveWorker hm
    exact ⟨.ordered d, .fresh hp', .connect rfl hc, hrank⟩
  | delaying | fetching => cases hm
  | @sending d w s hw hcap =>
    obtain ⟨w', hmove, rfl, hcap', hrank⟩ := moveWorker_running hm
    obtain ⟨hw', rfl, hc⟩ := Worker.does_move_idle hw hmove
    exact ⟨.ordered d, .sending hw' (hcap'.symm ▸ hcap), .connect rfl hc, hrank⟩
  | @awaiting n w s hd hw hcap =>
    obtain ⟨w', hmove, rfl, hcap', hrank⟩ := moveWorker_running hm
    obtain ⟨duty', hw', hstep⟩ := Worker.does_move hcall hrow hw hmove
    exact ⟨duty', .awaiting (fun hi => hd (hstep.idle_iff.mp hi)) hw' (hcap'.symm ▸ hcap), hstep,
      hrank⟩

/-! ## Replies -/

/-- The worker has a reply that was not taken. -/
def hasReply : Poller → Bool
  | .running w => !w.replies.isEmpty
  | .direct => false
  | .pending => false
  | .fallback => false
  | .stopped => false

theorem Resting.hasReply_eq (h : Resting server feed n p s) : p.hasReply = false := by
  cases h with
  | running hw => cases hw <;> rfl
  | direct | pending => rfl

/-- The outcome of a poll that does not fetch by itself is a reply. -/
theorem Polling.hasReply_of_ready {o : Outcome} {r : State} (hcap : 0 < capacity)
    (h : Polling server feed n duty p poll s)
    (hm : move server capacity now (p, poll, s) = .ready o r) (ho : p.isOffloaded = true) :
    p.hasReply = true := by
  replace hm := Move.of_move hm nofun
  cases h with
  | fresh hp =>
    cases hp with
    | direct => cases ho
    | pending => cases hm with
      | unconnected hzero => exact absurd hzero (Nat.ne_of_gt hcap)
    | running => cases hm
  | delaying | fetching => cases ho
  | sending hw => cases hm with
    | receive hm =>
      rcases Worker.does_moveRequest_sending _ hw with ⟨w', hmoved, -⟩ | ⟨hblocked, -⟩
      · cases hm.symm.trans hmoved
      · cases hm.symm.trans hblocked
  | awaiting hd hw => cases hm with
    | receive hm => cases hw with
      | replied => rfl
      | _ => cases hm

/-- A poll is not held up when there is a reply. -/
theorem Polling.hasReply_of_blocked (h : Polling server feed n duty p poll s)
    (hm : move server capacity now (p, poll, s) = .blocked) : p.hasReply = false := by
  cases h with
  | fresh hp => exact hp.hasReply_eq
  | delaying | fetching => rfl
  | sending hw => cases hw <;> rfl
  | awaiting hd hw => cases hw with
    | replied => cases hm
    | _ => rfl

/-- A poll that goes on has no new reply, and fetches where it did. -/
theorem Move.of_moved {r : State} (hcap : 0 < capacity)
    (h : Move server capacity now s p poll (.moved r)) :
    (r.1.hasReply = true → p.hasReply = true) ∧ r.1.isOffloaded = p.isOffloaded := by
  cases h with
  | fetch | delay | wake | request => exact ⟨id, rfl⟩
  | hire => exact ⟨nofun, rfl⟩
  | fallBack hzero => exact absurd hzero (Nat.ne_of_gt hcap)
  | @send w w' _ _ hm =>
    have hsame : (running w').hasReply = (running w).hasReply :=
      congrArg (fun replies : List Outcome => !replies.isEmpty) (Worker.of_moveRequest_moved hm).1
    exact ⟨hsame.symm.trans, rfl⟩

theorem Move.isOffloaded_of_ready {o : Outcome} {r : State}
    (h : Move server capacity now s p poll (.ready o r)) : r.1.isOffloaded = p.isOffloaded := by
  cases h <;> rfl

theorem isOffloaded_of_moveWorker (hm : p.moveWorker server now s = some (p', s')) :
    p'.isOffloaded = p.isOffloaded := by
  cases p with
  | running w =>
    obtain ⟨w', -, rfl, -⟩ := moveWorker_running hm
    rfl
  | direct | pending | fallback | stopped => cases hm

end Poller

end RemoteConsole
