import RemoteConsole.Poller
import RemoteConsole.Proofs.Worker.Moves

/-!
# The moves of a poll

* `Poller.Move server capacity now s p poll m`: what can come of a poll that is not held up; one
  constructor for each kind of step. `Move.of_move` says that nothing else does.
* `FetchesItself`: a poller whose stream fetches by itself.
* `select_direct`, `select_refused`: the poller of a stream that is to fetch by itself. `select_ok`,
  `exists_select_ok`: which poller a stream has, and when it has one.
-/

namespace RemoteConsole

namespace Worker

variable {capacity : Nat}

theorem spawn_zero (h : capacity = 0) :
    spawn true capacity =
      .error (.error (.validation "worker_channel_capacity must be greater than 0")) :=
  if_pos h

theorem spawn_large (h : capacityLimit < capacity) :
    spawn true capacity = .error (.fault .channelSize) :=
  (if_neg (Nat.ne_of_gt (Nat.zero_lt_of_lt h))).trans (if_pos h)

theorem spawn_fitting (hpos : 0 < capacity) (hle : capacity ≤ capacityLimit) :
    spawn true capacity = .ok (.spawned capacity) :=
  (if_neg (Nat.ne_of_gt hpos)).trans (if_neg (Nat.not_lt.mpr hle))

end Worker

namespace Poller

theorem spawn_fitting {capacity : Nat} (hpos : 0 < capacity) (hle : capacity ≤ Worker.capacityLimit)
    (server : Server) (d : Nat) (s : Scene) :
    spawn server capacity d s = .moved (.running (.spawned capacity), .fresh d, s) := by
  unfold spawn
  rw [Worker.spawn_fitting hpos hle]

/-- With channels that cannot be had the stream does not go on without a worker: it breaks off. -/
theorem spawn_large {capacity : Nat} (h : Worker.capacityLimit < capacity) (server : Server)
    (d : Nat) (s : Scene) : spawn server capacity d s = .crashed (.pending, .fresh d, s) := by
  unfold spawn
  rw [Worker.spawn_large h]

/-- The stream fetches by itself, because it was to or because there is no worker. -/
def FetchesItself (p : Poller) : Prop := p = .direct ∨ p = .fallback

namespace FetchesItself

variable {p : Poller} (hp : p.FetchesItself) (server : Server) (now : Nat) (s : Scene)
include hp

theorem start_eq (capacity d : Nat) :
    start server capacity now p d s = .moved (startDirect server now p d s) := by
  rcases hp with rfl | rfl <;> rfl

theorem moveWorker_eq : p.moveWorker server now s = none := by
  rcases hp with rfl | rfl <;> rfl

theorem workerWake?_eq : p.workerWake? = none := by
  rcases hp with rfl | rfl <;> rfl

end FetchesItself

/-- The steps of a poll: it fetches by itself, at once or later; the worker is hired, or the stream
does without; the order is passed on; and the outcome comes from the server or from the worker. -/
inductive Move (server : Server) (capacity now : Nat) (s : Scene) :
    Poller → Poll → Motion Outcome State → Prop
  | fetch {p : Poller} (hp : p.FetchesItself) :
      Move server capacity now s p (.fresh 0) (.moved (beginFetch server now p s))
  | delay {p : Poller} {d : Nat} (hp : p.FetchesItself) (hd : d ≠ 0) :
      Move server capacity now s p (.fresh d) (.moved (p, .delaying (now + d), s))
  | hire {d : Nat} (hpos : 0 < capacity) (hle : capacity ≤ Worker.capacityLimit) :
      Move server capacity now s .pending (.fresh d)
        (.moved (.running (.spawned capacity), .fresh d, s))
  | fallBack {d : Nat} (hzero : capacity = 0) (hc : (server.connect s).1 = .ok ()) :
      Move server capacity now s .pending (.fresh d)
        (.moved (.fallback, .fresh d, (server.connect s).2))
  | unconnected {d : Nat} {e : FetchError} (hzero : capacity = 0)
      (hc : (server.connect s).1 = .error e) :
      Move server capacity now s .pending (.fresh d)
        (.ready (.error e) (.pending, .fresh d, (server.connect s).2))
  | unspawned {d : Nat} (hlt : Worker.capacityLimit < capacity) :
      Move server capacity now s .pending (.fresh d) (.crashed (.pending, .fresh d, s))
  | request {w : Worker} {d : Nat} :
      Move server capacity now s (.running w) (.fresh d)
        (.moved (.running w, .requesting (w.request d), s))
  | shutDown {d : Nat} :
      Move server capacity now s .stopped (.fresh d)
        (.ready (.error shutDown) (.stopped, .fresh d, s))
  | wake {p : Poller} {t : Nat} (ht : t ≤ now) :
      Move server capacity now s p (.delaying t) (.moved (beginFetch server now p s))
  | answer {p : Poller} {f : Fetch} {o : Outcome} (hd : f.due ≤ now) (hr : f.reply = .answer o) :
      Move server capacity now s p (.fetching f) (.ready o (p, .fetching f, s.finish))
  | panic {p : Poller} {f : Fetch} (hd : f.due ≤ now) (hr : f.reply = .panic) :
      Move server capacity now s p (.fetching f) (.crashed (p, .fetching f, s))
  | send {w w' : Worker} {r r' : Request} (hm : w.moveRequest r = .moved (w', r')) :
      Move server capacity now s (.running w) (.requesting r)
        (.moved (.running w', .requesting r', s))
  | receive {w w' : Worker} {r r' : Request} {o : Outcome}
      (hm : w.moveRequest r = .ready o (w', r')) :
      Move server capacity now s (.running w) (.requesting r)
        (.ready o (.running w', .requesting r', s))

variable {server : Server} {capacity now : Nat} {p : Poller} {poll : Poll} {s : Scene}
  {m : Motion Outcome State}

theorem Move.of_startDirect {d : Nat} (hp : p.FetchesItself) :
    Move server capacity now s p (.fresh d) (.moved (startDirect server now p d s)) := by
  unfold startDirect
  split
  · next hd => subst hd; exact .fetch hp
  · next hd => exact .delay hp hd

theorem Move.of_spawn {d : Nat} :
    Move server capacity now s .pending (.fresh d) (spawn server capacity d s) := by
  by_cases hzero : capacity = 0
  · generalize hconnect : server.connect s = r
    obtain ⟨result, s'⟩ := r
    have hscene : s' = (server.connect s).2 := by rw [hconnect]
    unfold spawn
    rw [Worker.spawn_zero hzero]
    dsimp only
    rw [hconnect]
    cases result with
    | ok => rw [hscene]; exact .fallBack hzero (by rw [hconnect])
    | error e => rw [hscene]; exact .unconnected hzero (by rw [hconnect])
  · by_cases hle : capacity ≤ Worker.capacityLimit
    · have hpos := Nat.pos_of_ne_zero hzero
      rw [spawn_fitting hpos hle]
      exact .hire hpos hle
    · have hlt := Nat.lt_of_not_le hle
      rw [spawn_large hlt]
      exact .unspawned hlt

theorem Move.of_start {d : Nat} :
    Move server capacity now s p (.fresh d) (start server capacity now p d s) := by
  cases p with
  | direct => exact .of_startDirect (.inl rfl)
  | fallback => exact .of_startDirect (.inr rfl)
  | pending => exact .of_spawn
  | running w => exact .request
  | stopped => exact .shutDown

/-- A poll that is not held up takes one of the steps. -/
theorem Move.of_move (h : move server capacity now (p, poll, s) = m) (hm : m ≠ .blocked) :
    Move server capacity now s p poll m := by
  subst h
  cases poll with
  | fresh d => exact .of_start
  | delaying t =>
    unfold move at hm ⊢
    dsimp only at hm ⊢
    split
    · next ht => exact .wake ht
    · next ht => exact absurd (if_neg ht) hm
  | fetching f =>
    unfold move at hm ⊢
    dsimp only at hm ⊢
    split
    · next hd =>
      rw [if_pos hd] at hm
      split
      · next o hr => exact .answer hd hr
      · next hr => exact .panic hd hr
      · next hr => rw [hr] at hm; exact absurd rfl hm
    · next hd => exact absurd (if_neg hd) hm
  | requesting r =>
    cases p with
    | running w =>
      unfold move at hm ⊢
      dsimp only at hm ⊢
      split
      · next hr => exact .send hr
      · next hr => exact .receive hr
      · next hr => rw [hr] at hm; exact absurd rfl hm
      · next hr => exact absurd hr Worker.moveRequest_ne_crashed
    | direct | pending | fallback | stopped => exact absurd rfl hm

section

variable {mode : OffloadMode} {isThreaded : Bool} {err : FetchError}

/-- A stream that is to fetch by itself connects when its poller is chosen. -/
theorem select_direct (hmode : mode.offloads isThreaded = false)
    (hconnects : (server.connect s).1 = .ok ()) :
    select server mode isThreaded s = (.ok .direct, (server.connect s).2) := by
  unfold select
  rw [if_neg (Bool.eq_false_iff.mp hmode)]
  generalize server.connect s = r at hconnects
  obtain ⟨result, scene⟩ := r
  cases hconnects
  rfl

theorem select_refused (hmode : mode.offloads isThreaded = false)
    (hrefuses : (server.connect s).1 = .error err) :
    select server mode isThreaded s = (.error (.connect err), (server.connect s).2) := by
  unfold select
  rw [if_neg (Bool.eq_false_iff.mp hmode)]
  generalize server.connect s = r at hrefuses
  obtain ⟨result, scene⟩ := r
  cases hrefuses
  rfl

/-- The poller that is chosen has no worker yet, or fetches for the stream. -/
theorem select_ok {s' : Scene} (h : select server mode isThreaded s = (.ok p, s')) :
    mode.offloads isThreaded = true ∧ p = .pending ∧ s' = s ∨
      mode.offloads isThreaded = false ∧ p = .direct ∧ s' = (server.connect s).2 := by
  cases hmode : mode.offloads isThreaded with
  | true =>
    unfold select at h
    rw [if_pos hmode] at h
    cases h
    exact .inl ⟨rfl, rfl, rfl⟩
  | false =>
    cases hconnect : (server.connect s).1 with
    | ok =>
      rw [select_direct hmode hconnect] at h
      cases h
      exact .inr ⟨rfl, rfl, rfl⟩
    | error e =>
      rw [select_refused hmode hconnect] at h
      cases h

/-- A poller can be chosen unless the server refuses. -/
theorem exists_select_ok : (∃ p, (select server mode isThreaded s).1 = .ok p) ↔
    mode.offloads isThreaded = true ∨ (server.connect s).1 = .ok () := by
  cases hmode : mode.offloads isThreaded with
  | true =>
    unfold select
    rw [if_pos hmode]
    exact ⟨fun _ => .inl rfl, fun _ => ⟨_, rfl⟩⟩
  | false =>
    cases hconnect : (server.connect s).1 with
    | ok =>
      rw [select_direct hmode hconnect]
      exact ⟨fun _ => .inr rfl, fun _ => ⟨_, rfl⟩⟩
    | error e =>
      rw [select_refused hmode hconnect]
      exact ⟨fun ⟨_, h⟩ => (nomatch h), fun h => h.elim nofun nofun⟩

end

end Poller

end RemoteConsole
