import RemoteConsole.Proofs.Poller.Moves
import RemoteConsole.Proofs.Worker.Duty
import RemoteConsole.Rehearsal.Caller

/-!
# Waiting for a poll

What a caller gets who waits for a poll to the end, for each shape of the poll.

* `Caller.Ends server capacity k c poll r`: with `k` steps or more, waiting for the poll ends with
  `r`. `Ends.moved`, `Ends.worker`, `Ends.later`, ...: it takes one step more to wait for what comes
  before.
* `ends_fresh_itself`: a poller that fetches by itself.
* `ends_reporting`, `ends_fetching`, `ends_told`, ...: a worker at each point of an order, from the
  last to the first. `ends_fresh_running`, `ends_fresh_pending`, `ends_fresh_unmanned`: a poller
  whose worker runs, is yet to be hired, or cannot be had.
-/

namespace RemoteConsole

/-- The scene after a fetch that began at a time and has ended. -/
def Server.fetched (server : Server) (begun : Nat) (s : Scene) : Scene :=
  (server.begin begun s).2.finish

namespace Rehearsal.Caller

/-- With so many steps or more, waiting for the poll ends like this. -/
def Ends (server : Server) (capacity k : Nat) (c : Caller) (poll : Poll)
    (r : Caller × Answer) : Prop :=
  ∀ steps, k ≤ steps → c.wait server capacity none steps poll = r

variable {server : Server} {capacity k k' now t d due n : Nat} {c : Caller} {poll poll' : Poll}
  {r : Caller × Answer} {p : Poller} {s : Scene} {o : Outcome}

theorem Ends.mono (h : Ends server capacity k c poll r) (hk : k ≤ k') :
    Ends server capacity k' c poll r :=
  fun steps hsteps => h steps (Nat.le_trans hk hsteps)

theorem Ends.moved
    (hm : Poller.move server capacity c.now (c.poller, poll, c.scene) = .moved (p, poll', s))
    (h : Ends server capacity k ⟨c.now, p, s⟩ poll' r) :
    Ends server capacity (k + 1) c poll r := by
  intro steps hsteps
  obtain ⟨steps, rfl⟩ := Nat.exists_eq_add_of_le' (Nat.le_trans (Nat.le_add_left 1 k) hsteps)
  unfold wait
  rw [hm]
  exact h steps (Nat.le_of_succ_le_succ hsteps)

theorem Ends.ready
    (hm : Poller.move server capacity c.now (c.poller, poll, c.scene) = .ready o (p, poll', s)) :
    Ends server capacity 1 c poll (⟨c.now, p, s⟩, .outcome o) := by
  intro steps hsteps
  obtain ⟨steps, rfl⟩ := Nat.exists_eq_add_of_le' hsteps
  unfold wait
  rw [hm]

theorem Ends.crashed
    (hm : Poller.move server capacity c.now (c.poller, poll, c.scene) = .crashed (p, poll', s)) :
    Ends server capacity 1 c poll (⟨c.now, p, s⟩, .panicked) := by
  intro steps hsteps
  obtain ⟨steps, rfl⟩ := Nat.exists_eq_add_of_le' hsteps
  unfold wait
  rw [hm]

/-- The poll is held up, and the worker takes a step. -/
theorem Ends.worker
    (hm : Poller.move server capacity c.now (c.poller, poll, c.scene) = .blocked)
    (hw : c.poller.moveWorker server c.now c.scene = some (p, s))
    (h : Ends server capacity k ⟨c.now, p, s⟩ poll r) :
    Ends server capacity (k + 1) c poll r := by
  intro steps hsteps
  obtain ⟨steps, rfl⟩ := Nat.exists_eq_add_of_le' (Nat.le_trans (Nat.le_add_left 1 k) hsteps)
  unfold wait
  rw [hm]
  dsimp only
  rw [hw]
  exact h steps (Nat.le_of_succ_le_succ hsteps)

/-- Both wait, and time passes. -/
theorem Ends.later
    (hm : Poller.move server capacity c.now (c.poller, poll, c.scene) = .blocked)
    (hw : c.poller.moveWorker server c.now c.scene = none)
    (hwake : earlier poll.wake? c.poller.workerWake? = some t) (ht : c.now ≤ t)
    (h : Ends server capacity k ⟨t, c.poller, c.scene⟩ poll r) :
    Ends server capacity (k + 1) c poll r := by
  intro steps hsteps
  obtain ⟨steps, rfl⟩ := Nat.exists_eq_add_of_le' (Nat.le_trans (Nat.le_add_left 1 k) hsteps)
  unfold wait
  rw [hm]
  dsimp only
  rw [hw]
  dsimp only
  rw [hwake]
  simp only [earlier, isPast, Bool.false_eq_true, ↓reduceIte, Nat.max_eq_right ht]
  exact h steps (Nat.le_of_succ_le_succ hsteps)

/-- A request is held up, and the worker takes a step. -/
theorem Ends.work {w w' : Worker} {s' : Scene} {request : Request}
    (hm : w.moveRequest request = .blocked) (hw : w.move server now s = some (w', s'))
    (h : Ends server capacity k ⟨now, .running w', s'⟩ (.requesting request) r) :
    Ends server capacity (k + 1) ⟨now, .running w, s⟩ (.requesting request) r := by
  refine .worker ?_ (congrArg (Option.map _) hw) h
  simp only [Poller.move, hm]

/-- A request is held up, and its worker waits until a time. -/
theorem Ends.pause {w : Worker} {request : Request} (hm : w.moveRequest request = .blocked)
    (hw : w.move server now s = none) (hwake : w.wake? = some t) (ht : now ≤ t)
    (h : Ends server capacity k ⟨t, .running w, s⟩ (.requesting request) r) :
    Ends server capacity (k + 1) ⟨now, .running w, s⟩ (.requesting request) r := by
  refine .later ?_ (congrArg (Option.map _) hw) ?_ ht h
  · simp only [Poller.move, hm]
  · simp only [Poll.wake?, Poller.workerWake?, hwake, earlier]

/-! ## A stream that fetches by itself -/

variable {feed : Feed}

theorem ends_fetching_itself (hp : p.FetchesItself) (hdue : now ≤ due) :
    Ends server capacity 2 ⟨now, p, s⟩ (.fetching ⟨due, .answer o⟩)
      (⟨due, p, s.finish⟩, .outcome o) := by
  have hanswer : Ends server capacity 1 ⟨due, p, s⟩ (.fetching ⟨due, .answer o⟩)
      (⟨due, p, s.finish⟩, .outcome o) :=
    .ready (if_pos (Nat.le_refl due))
  rcases Nat.lt_or_eq_of_le hdue with hlt | rfl
  · refine .later (if_neg (Nat.not_le.mpr hlt)) (hp.moveWorker_eq ..) ?_ hdue hanswer
    rw [hp.workerWake?_eq]
    rfl
  · exact hanswer.mono (Nat.le_succ 1)

theorem ends_fresh_itself (hcall : server.call = feed.call) (hp : p.FetchesItself)
    (hs : s.calls = n) (d : Nat) :
    Ends server capacity 5 ⟨now, p, s⟩ (.fresh d)
      (⟨now + d + feed.latency n, p, server.fetched (now + d) s⟩, .outcome (feed.answer n)) := by
  have hfetch : Ends server capacity 2 ⟨now + d, p, (server.begin (now + d) s).2⟩
      (.fetching (server.begin (now + d) s).1)
      (⟨now + d + feed.latency n, p, server.fetched (now + d) s⟩, .outcome (feed.answer n)) := by
    rw [Worker.begin_eq hcall (now + d) hs]
    exact ends_fetching_itself hp (Nat.le_add_right _ _)
  have hstart : Poller.move server capacity now (p, .fresh d, s) =
      .moved (Poller.startDirect server now p d s) := hp.start_eq ..
  by_cases hd : d = 0
  · subst hd
    exact (Ends.moved hstart hfetch).mono (by decide)
  · unfold Poller.startDirect at hstart
    rw [if_neg hd] at hstart
    have hlater : ¬ now + d ≤ now := by omega
    refine .moved hstart (.later (if_neg hlater) (hp.moveWorker_eq ..) ?_ (Nat.le_add_right now d)
      (.moved (if_pos (Nat.le_refl _)) hfetch))
    rw [hp.workerWake?_eq]
    rfl

/-! ## A worker, from the reply back to the order -/

variable {j j' : UInt32}

theorem ends_reporting (hcap : 0 < capacity) :
    Ends server capacity 2 ⟨now, .running (.engaged capacity j [] (.reporting o)), s⟩
      (.requesting .awaiting) (⟨now, .running (.settled capacity j), s⟩, .outcome o) :=
  .work rfl (if_pos hcap) (.ready rfl)

theorem ends_fetching (hcap : 0 < capacity) (hj : Worker.Tallies j o j') (hdue : now ≤ due) :
    Ends server capacity 4
      ⟨now, .running (.engaged capacity j [] (.fetching ⟨due, .answer o⟩)), s⟩
      (.requesting .awaiting) (⟨due, .running (.settled capacity j'), s.finish⟩, .outcome o) := by
  have hanswer : Ends server capacity 3
      ⟨due, .running (.engaged capacity j [] (.fetching ⟨due, .answer o⟩)), s⟩
      (.requesting .awaiting) (⟨due, .running (.settled capacity j'), s.finish⟩, .outcome o) := by
    refine .work rfl (if_pos (Nat.le_refl due)) ?_
    rw [hj]
    exact ends_reporting hcap
  rcases Nat.lt_or_eq_of_le hdue with hlt | rfl
  · exact .pause rfl (if_neg (Nat.not_le.mpr hlt)) rfl hdue hanswer
  · exact hanswer.mono (Nat.le_succ 3)

section

variable (hcall : server.call = feed.call) (hcap : 0 < capacity)
  (hj : Worker.Tallies j (feed.answer n) j')
include hcall hcap hj

/-- The worker has just begun to fetch. -/
theorem ends_begun (hs : s.calls = n) (activity : Activity) :
    Ends server capacity 4
      ⟨now, .running ((Worker.engaged capacity j [] activity).beginFetch server now s).1,
        ((Worker.engaged capacity j [] activity).beginFetch server now s).2⟩
      (.requesting .awaiting)
      (⟨now + feed.latency n, .running (.settled capacity j'), server.fetched now s⟩,
        .outcome (feed.answer n)) := by
  rw [Worker.beginFetch_ok rfl, Worker.begin_eq hcall now hs]
  exact ends_fetching hcap hj (Nat.le_add_right _ _)

theorem ends_delaying (hs : s.calls = n) (ht : now ≤ t) :
    Ends server capacity 6 ⟨now, .running (.engaged capacity j [] (.delaying t)), s⟩
      (.requesting .awaiting)
      (⟨t + feed.latency n, .running (.settled capacity j'), server.fetched t s⟩,
        .outcome (feed.answer n)) := by
  have hwake : Ends server capacity 5 ⟨t, .running (.engaged capacity j [] (.delaying t)), s⟩
      (.requesting .awaiting)
      (⟨t + feed.latency n, .running (.settled capacity j'), server.fetched t s⟩,
        .outcome (feed.answer n)) :=
    .work rfl (if_pos (Nat.le_refl t)) (ends_begun hcall hcap hj hs (.delaying t))
  rcases Nat.lt_or_eq_of_le ht with hlt | rfl
  · exact .pause rfl (if_neg (Nat.not_le.mpr hlt)) rfl ht hwake
  · exact hwake.mono (Nat.le_succ 5)

theorem ends_told (hs : s.calls = n) (d : Nat) :
    Ends server capacity 7 ⟨now, .running (.engaged capacity j [.fetch d] .receiving), s⟩
      (.requesting .awaiting)
      (⟨now + d + feed.latency n, .running (.settled capacity j'), server.fetched (now + d) s⟩,
        .outcome (feed.answer n)) := by
  by_cases hd : d = 0
  · subst hd
    have hbegun : Ends server capacity 5
        ⟨now, .running (.engaged capacity j [.fetch 0] .receiving), s⟩ (.requesting .awaiting)
        (⟨now + feed.latency n, .running (.settled capacity j'), server.fetched now s⟩,
          .outcome (feed.answer n)) :=
      .work rfl (Worker.Move.fetch rfl rfl).move_eq (ends_begun hcall hcap hj hs .receiving)
    exact hbegun.mono (by decide)
  · exact .work rfl (Worker.Move.delay rfl rfl hd).move_eq
      (ends_delaying hcall hcap hj hs (Nat.le_add_right now d))

/-- The worker has nothing to do, and is sent the order. -/
theorem ends_sending (hs : s.calls = n) (d : Nat) :
    Ends server capacity 8 ⟨now, .running (.settled capacity j), s⟩ (.requesting (.sending d))
      (⟨now + d + feed.latency n, .running (.settled capacity j'), server.fetched (now + d) s⟩,
        .outcome (feed.answer n)) := by
  have hsent : (Worker.settled capacity j).moveRequest (.sending d) =
      .moved (.engaged capacity j [.fetch d] .receiving, .awaiting) := if_pos hcap
  refine .moved ?_ (ends_told hcall hcap hj hs d)
  simp only [Poller.move, hsent]

theorem ends_fresh_running (hs : s.calls = n) (d : Nat) :
    Ends server capacity 9 ⟨now, .running (.settled capacity j), s⟩ (.fresh d)
      (⟨now + d + feed.latency n, .running (.settled capacity j'), server.fetched (now + d) s⟩,
        .outcome (feed.answer n)) :=
  .moved rfl (ends_sending hcall hcap hj hs d)

end

/-! ## A worker that is yet to be hired -/

section

variable (hcall : server.call = feed.call) (hconnects : (server.connect s).1 = .ok ())
  (hs : s.calls = n)
include hcall hconnects hs

/-- The worker has not connected yet. It may have to before there is room for the order. -/
theorem ends_sending_hired (hcap : 0 < capacity) (hj : Worker.Tallies 0 (feed.answer n) j')
    (d : Nat) :
    Ends server capacity 9 ⟨now, .running (.spawned capacity), s⟩ (.requesting (.sending d))
      (⟨now + d + feed.latency n, .running (.settled capacity j'),
        server.fetched (now + d) (server.connect s).2⟩, .outcome (feed.answer n)) := by
  have hcalls : (server.connect s).2.calls = n := (server.connect_calls s).trans hs
  by_cases hroom : 1 < capacity
  · let told : Worker :=
      { Worker.spawned capacity with orders := [.connect, .fetch d], outstanding := true }
    have hsent : (Worker.spawned capacity).moveRequest (.sending d) = .moved (told, .awaiting) :=
      if_pos hroom
    have hconnect : told.move server now s =
        some (.engaged capacity 0 [.fetch d] .receiving, (server.connect s).2) := by
      rw [(Worker.Move.connect (w := told) rfl rfl).move_eq, hconnects]
      rfl
    refine .moved ?_ (.work rfl hconnect (ends_told hcall hcap hj hcalls d))
    simp only [Poller.move, hsent]
  · -- The order to connect takes up all the room there is, and the worker has to go first.
    have hconnect : (Worker.spawned capacity).move server now s =
        some (.settled capacity 0, (server.connect s).2) := by
      rw [(Worker.Move.connect rfl rfl).move_eq, hconnects]
      rfl
    exact .work (if_neg hroom) hconnect (ends_sending hcall hcap hj hcalls d)

theorem ends_fresh_pending (hcap : 0 < capacity) (hle : capacity ≤ Worker.capacityLimit)
    (hj : Worker.Tallies 0 (feed.answer n) j') (d : Nat) :
    Ends server capacity 11 ⟨now, .pending, s⟩ (.fresh d)
      (⟨now + d + feed.latency n, .running (.settled capacity j'),
        server.fetched (now + d) (server.connect s).2⟩, .outcome (feed.answer n)) := by
  have hspawn : Poller.spawn server capacity d s =
      .moved (.running (.spawned capacity), .fresh d, s) := by
    unfold Poller.spawn
    rw [Worker.spawn_fitting hcap hle]
  exact .moved hspawn (.moved rfl (ends_sending_hired hcall hconnects hs hcap hj d))

/-- Without a worker, the stream connects and fetches by itself. -/
theorem ends_fresh_unmanned (hzero : capacity = 0) (d : Nat) :
    Ends server capacity 6 ⟨now, .pending, s⟩ (.fresh d)
      (⟨now + d + feed.latency n, .fallback, server.fetched (now + d) (server.connect s).2⟩,
        .outcome (feed.answer n)) := by
  have hspawn : Poller.spawn server capacity d s =
      .moved (.fallback, .fresh d, (server.connect s).2) := by
    unfold Poller.spawn
    rw [Worker.spawn_zero hzero]
    dsimp only
    split
    · next s' hconnect => rw [hconnect]
    · next e s' hconnect => rw [hconnect] at hconnects; cases hconnects
  exact .moved hspawn
    (ends_fresh_itself hcall (.inr rfl) ((server.connect_calls s).trans hs) d)

end

/-- Channels cannot be of any size. -/
theorem ends_fresh_oversized (hlarge : Worker.capacityLimit < capacity) (d : Nat) :
    Ends server capacity 1 ⟨now, .pending, s⟩ (.fresh d) (⟨now, .pending, s⟩, .panicked) :=
  .crashed (Poller.spawn_large hlarge server d s)

end Rehearsal.Caller

end RemoteConsole
