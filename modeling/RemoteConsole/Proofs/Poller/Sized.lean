import RemoteConsole.Proofs.Poller.Errand

/-!
# Pollers with channels of a size

* `Poller.Sized offloads capacity`: what the poller of a stream can be whose fetches run elsewhere or
  not, with channels of a size. There is a worker only if there are such channels.
* `Poller.Awaits`: what a poller can wait for. A fetch of its own is one of the server's, and belongs
  to a stream that fetches by itself.
* `Move.sized`, `Sized.moveWorker`, `Sized.stop`: every step keeps both.
* `Sized.oversized`, `Move.calls_of_oversized`: a poller whose channels cannot be had never gets a
  worker, and begins no fetch.
-/

namespace RemoteConsole

namespace Poller

/-- The poller of a stream whose fetches run elsewhere or not, with channels of a size. -/
inductive Sized (offloads : Bool) (capacity : Nat) : Poller → Prop
  | direct (h : offloads = false) : Sized offloads capacity .direct
  | pending (h : offloads = true) : Sized offloads capacity .pending
  | running {w : Worker} (h : offloads = true) (hw : w.capacity = capacity) (hpos : 0 < capacity)
      (hle : capacity ≤ Worker.capacityLimit) : Sized offloads capacity (.running w)
  | fallback (h : offloads = true) (hzero : capacity = 0) : Sized offloads capacity .fallback
  | stopped (h : offloads = true) : Sized offloads capacity .stopped

/-- A poll that a poller can wait for when the server was called so many times. -/
inductive Awaits (server : Server) (calls : Nat) : Poller → Poll → Prop
  | fresh {p : Poller} {d : Nat} : Awaits server calls p (.fresh d)
  | delaying {p : Poller} {t : Nat} (hp : p.FetchesItself) : Awaits server calls p (.delaying t)
  | fetching {p : Poller} {due i : Nat} (hp : p.FetchesItself) (hi : i < calls) :
      Awaits server calls p (.fetching ⟨due, (server.call i).reply⟩)
  | requesting {w : Worker} {r : Request} : Awaits server calls (.running w) (.requesting r)

variable {server : Server} {offloads : Bool} {capacity now calls : Nat} {p p' : Poller} {poll : Poll}
  {s s' : Scene} {m : Motion Outcome State} {r : State}

theorem Awaits.of_fetching {fetch : Fetch} (h : Awaits server calls p (.fetching fetch)) :
    p.FetchesItself ∧ ∃ i < calls, (server.call i).reply = fetch.reply := by
  cases h with
  | fetching hp hi => exact ⟨hp, _, hi, rfl⟩

/-- Until there is a worker there is nothing to wait for but the first fetch. -/
theorem Awaits.of_pending (h : Awaits server calls .pending poll) : ∃ d, poll = .fresh d := by
  cases h with
  | fresh => exact ⟨_, rfl⟩
  | delaying hitself | fetching hitself => rcases hitself with hp | hp <;> cases hp

theorem Sized.stop (h : p.Sized offloads capacity) : p.stop.Sized offloads capacity := by
  cases h with
  | direct h => exact .direct h
  | pending h | running h | fallback h | stopped h => exact .stopped h

/-- A step of a poll keeps to the size of the channels, and gives no poller up. -/
theorem Move.sized (h : Move server capacity now s p poll m) (hafter : after? m = some r)
    (hp : p.Sized offloads capacity) (hpoll : Awaits server s.calls p poll) :
    r.1.Sized offloads capacity ∧ Awaits server r.2.2.calls r.1 r.2.1 ∧
      (p ≠ .stopped → r.1 ≠ .stopped) := by
  cases h with
  | fetch hitself => cases hafter; exact ⟨hp, .fetching hitself (Nat.lt_succ_self _), id⟩
  | delay hitself => cases hafter; exact ⟨hp, .delaying hitself, id⟩
  | wake =>
    cases hafter
    cases hpoll with
    | delaying hitself => exact ⟨hp, .fetching hitself (Nat.lt_succ_self _), id⟩
  | answer | panic => cases hafter; exact ⟨hp, hpoll, id⟩
  | unconnected | unspawned | shutDown => cases hafter; exact ⟨hp, .fresh, id⟩
  | request => cases hafter; exact ⟨hp, .requesting, id⟩
  | hire hpos hle =>
    cases hafter
    cases hp with
    | pending h => exact ⟨.running h rfl hpos hle, .fresh, nofun⟩
  | fallBack hzero =>
    cases hafter
    cases hp with
    | pending h => exact ⟨.fallback h hzero, .fresh, nofun⟩
  | send hm =>
    cases hafter
    obtain ⟨-, -, hsame⟩ := Worker.of_moveRequest_moved hm
    cases hp with
    | running h hw hpos hle => exact ⟨.running h (hsame.trans hw) hpos hle, .requesting, nofun⟩
  | receive hm =>
    cases hafter
    obtain ⟨-, -, hsame⟩ := Worker.of_moveRequest_ready hm
    cases hp with
    | running h hw hpos hle => exact ⟨.running h (hsame.trans hw) hpos hle, .requesting, nofun⟩

/-- So does a step of the worker. -/
theorem Sized.moveWorker (hm : p.moveWorker server now s = some (p', s'))
    (hp : p.Sized offloads capacity) :
    p'.Sized offloads capacity ∧ p' ≠ .stopped ∧
      ∀ poll, Awaits server s.calls p poll → Awaits server s'.calls p' poll := by
  cases hp with
  | @running w h hw hpos hle =>
    obtain ⟨⟨w', s''⟩, hmove, heq⟩ := Option.map_eq_some_iff.mp hm
    cases heq
    have hsame := (Worker.Move.of_move hmove).capacity_eq
    refine ⟨.running h (hsame.trans hw) hpos hle, nofun, fun poll hpoll => ?_⟩
    cases hpoll with
    | fresh => exact .fresh
    | requesting => exact .requesting
    | delaying hitself | fetching hitself => rcases hitself with hp | hp <;> cases hp
  | direct | pending | fallback | stopped => cases hm

/-! ## Channels that cannot be had -/

theorem Sized.oversized (h : p.Sized true capacity) (hlarge : Worker.capacityLimit < capacity) :
    p = .pending ∨ p = .stopped := by
  cases h with
  | pending => exact .inl rfl
  | stopped => exact .inr rfl
  | direct h => cases h
  | running _ _ _ hle => exact absurd hle (Nat.not_le.mpr hlarge)
  | fallback _ hzero => exact absurd hlarge (by rw [hzero]; exact Nat.not_lt_zero _)

theorem Sized.not_itself (h : p.Sized true capacity) (hlarge : Worker.capacityLimit < capacity) :
    ¬ p.FetchesItself := by
  rcases h.oversized hlarge with rfl | rfl <;> rintro (hp | hp) <;> cases hp

/-- Such a poller begins no fetch. -/
theorem Move.calls_of_oversized (h : Move server capacity now s p poll m)
    (hafter : after? m = some r) (hp : p.Sized true capacity)
    (hlarge : Worker.capacityLimit < capacity) (hpoll : Awaits server s.calls p poll) :
    r.2.2.calls = s.calls := by
  cases h with
  | fetch hitself => exact absurd hitself (hp.not_itself hlarge)
  | wake =>
    cases hpoll with
    | delaying hitself => exact absurd hitself (hp.not_itself hlarge)
  | fallBack | unconnected => cases hafter; exact server.connect_calls s
  | unspawned | shutDown | delay | hire | request | answer | panic | send | receive =>
    cases hafter
    rfl

end Poller

end RemoteConsole
