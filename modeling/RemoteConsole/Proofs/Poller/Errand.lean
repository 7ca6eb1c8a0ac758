import RemoteConsole.Proofs.Poller.Moves
import RemoteConsole.Proofs.Worker.Errand

/-!
# How long an outcome takes at least

What `Proofs.Worker.Errand` says of a worker, for polls of all kinds: after a failure that is to be
waited out until `T`, no outcome comes before.

* `Poller.Rests`: a poller between two polls, which can begin the next at a time not before `T`.
* `Poller.Errand`: a poll whose outcome does not come before `T`.
* `Errand.keeps`: a step of the poll keeps to it. Only when the worker was gone before the poll,
  since a fetch broke off, the poll fails early.
-/

namespace RemoteConsole

namespace Poller

/-- The shapes of a poller between two polls, when so many errors came in a row. -/
inductive Rests (server : Server) (s : Scene) (failures : UInt32) (T t : Nat) : Poller → Prop
  | itself {p : Poller} (hp : p.FetchesItself) (ht : T ≤ t) : Rests server s failures T t p
  | pending (hfailures : failures = 0) (ht : T ≤ t) : Rests server s failures T t .pending
  | running {w : Worker} (hw : w.Rests server s failures T t) :
      Rests server s failures T t (.running w)

/-- The shapes of a poll whose outcome does not come before `T`. -/
inductive Errand (server : Server) (s : Scene) (failures : UInt32) (T now : Nat) :
    Poller → Poll → Prop
  | fresh {p : Poller} {d : Nat} (hp : p.Rests server s failures T (now + d)) :
      Errand server s failures T now p (.fresh d)
  | delaying {p : Poller} {wake : Nat} (hp : p.FetchesItself) (ht : T ≤ max wake now) :
      Errand server s failures T now p (.delaying wake)
  | fetching {p : Poller} {fetch : Fetch} (hp : p.FetchesItself) (ht : T ≤ now) :
      Errand server s failures T now p (.fetching fetch)
  | sending {w : Worker} {d : Nat} (hw : w.Rests server s failures T (now + d)) :
      Errand server s failures T now (.running w) (.requesting (.sending d))
  | awaiting {w : Worker} (hw : w.Errand server s failures T now) :
      Errand server s failures T now (.running w) (.requesting .awaiting)

variable {server : Server} {s s' : Scene} {failures : UInt32} {T T' t t' now capacity : Nat}
  {p p' : Poller} {poll : Poll}

theorem Rests.mono (h : p.Rests server s failures T t) (hcalls : s.calls ≤ s'.calls)
    (ht : T ≤ t → T' ≤ t') : p.Rests server s' failures T' t' := by
  cases h with
  | itself hp hle => exact .itself hp (ht hle)
  | pending hfailures hle => exact .pending hfailures (ht hle)
  | running hw => exact .running (hw.mono hcalls ht)

theorem Errand.mono (h : Errand server s failures T now p poll) (hcalls : s.calls ≤ s'.calls)
    {now' : Nat} (hnow : now ≤ now') (ht : T' ≤ T ∨ T' ≤ now') :
    Errand server s' failures T' now' p poll := by
  cases h with
  | fresh hp => exact .fresh (hp.mono hcalls (by omega))
  | delaying hp hle => exact .delaying hp (by omega)
  | fetching hp hle => exact .fetching hp (by omega)
  | sending hw => exact .sending (hw.mono hcalls (by omega))
  | awaiting hw => exact .awaiting (hw.mono hcalls hnow ht)

/-- The state that a poll has come to, unless it is held up. -/
def after? : Motion Outcome State → Option State
  | .moved r => some r
  | .ready _ r => some r
  | .crashed r => some r
  | .blocked => none

/-- A step of a poll takes no fetch back, and a stream that fetches by itself goes on to do so. -/
theorem Move.after_cases {m : Motion Outcome State} {r : State}
    (h : Move server capacity now s p poll m) (hm : after? m = some r) :
    s.calls ≤ r.2.2.calls ∧ (p = .direct → r.1 = .direct) := by
  cases h with
  | fetch | wake => cases hm; exact ⟨Nat.le_succ _, id⟩
  | fallBack | unconnected =>
    cases hm
    exact ⟨Nat.le_of_eq (server.connect_calls s).symm, nofun⟩
  | delay | answer | panic | shutDown | unspawned => cases hm; exact ⟨Nat.le_refl _, id⟩
  | hire | request | send | receive => cases hm; exact ⟨Nat.le_refl _, nofun⟩

/-! ## The worker's side -/

theorem moveWorker_calls (hm : p.moveWorker server now s = some (p', s')) :
    s.calls ≤ s'.calls := by
  cases p with
  | running w =>
    obtain ⟨⟨w', s''⟩, hw, heq⟩ := Option.map_eq_some_iff.mp hm
    cases heq
    exact (Worker.Move.of_move hw).calls_le
  | direct | pending | fallback | stopped => cases hm

theorem Rests.moveWorker (h : p.Rests server s failures T t)
    (hm : p.moveWorker server now s = some (p', s')) : p'.Rests server s' failures T t := by
  cases h with
  | itself hp => rcases hp with rfl | rfl <;> cases hm
  | pending => cases hm
  | running hw =>
    obtain ⟨⟨w', s''⟩, hmove, heq⟩ := Option.map_eq_some_iff.mp hm
    cases heq
    exact .running (hw.move hmove)

theorem Errand.moveWorker (h : Errand server s failures T now p poll)
    (hm : p.moveWorker server now s = some (p', s')) :
    Errand server s' failures T now p' poll := by
  cases h with
  | fresh hp => exact .fresh (hp.moveWorker hm)
  | delaying hp | fetching hp => rcases hp with rfl | rfl <;> cases hm
  | sending hw =>
    obtain ⟨⟨w', s''⟩, hmove, heq⟩ := Option.map_eq_some_iff.mp hm
    cases heq
    exact .sending (hw.move hmove)
  | awaiting hw =>
    obtain ⟨⟨w', s''⟩, hmove, heq⟩ := Option.map_eq_some_iff.mp hm
    cases heq
    exact .awaiting (hw.move hmove)

/-! ## The poll's side -/

/-- What comes of a poll: it goes on and still keeps to `T`; its outcome comes, not before `T`, and
the next poll can begin, unless the counter of errors is full; or the worker was gone, and stays
so. -/
def Keeps (server : Server) (s : Scene) (failures : UInt32) (T now : Nat) (p : Poller) :
    Motion Outcome State → Prop
  | .moved r => Errand server r.2.2 failures T now r.1 r.2.1
  | .ready o r =>
    (T ≤ now ∧ ((∀ T' t, T' ≤ t → r.1.Rests server r.2.2 (tally failures o) T' t) ∨
      failures = Lifecycle.lastFailure ∧ o = .error Worker.stopped)) ∨
    (o = .error Worker.stopped ∧ p ≠ .direct ∧ server.Panicked s.calls ∧
      ∀ T' t, r.1.Rests server r.2.2 (tally failures o) T' t)
  | .blocked => True
  | .crashed _ => True

theorem Rests.request {w : Worker} {d : Nat} (h : w.Rests server s failures T (now + d)) :
    w.request d = .sending d := by
  cases h <;> rfl

/-- Every step of a poll keeps to `T`. -/
theorem Errand.keeps {m : Motion Outcome State} (hcapacity : 0 < capacity)
    (h : Errand server s failures T now p poll) (hm : Move server capacity now s p poll m) :
    Keeps server s failures T now p m := by
  cases hm with
  | fetch hp =>
    refine .fetching hp ?_
    cases h with
    | fresh hr =>
      cases hr with
      | itself _ ht => exact ht
      | pending | running => rcases hp with hp | hp <;> cases hp
  | delay hp =>
    refine .delaying hp ?_
    cases h with
    | fresh hr =>
      cases hr with
      | itself _ ht => omega
      | pending | running => rcases hp with hp | hp <;> cases hp
  | hire =>
    cases h with
    | fresh hr =>
      cases hr with
      | itself hp => rcases hp with hp | hp <;> cases hp
      | pending hfailures ht =>
        subst hfailures
        exact .fresh (.running (.receiving (by simp) ht))
  | fallBack hzero | unconnected hzero => omega
  | unspawned | panic => trivial
  | request =>
    cases h with
    | fresh hr =>
      cases hr with
      | itself hp => rcases hp with hp | hp <;> cases hp
      | running hw => rw [Rests.request hw]; exact .sending hw
  | shutDown =>
    cases h with
    | fresh hr =>
      cases hr with
      | itself hp => rcases hp with hp | hp <;> cases hp
  | wake hle =>
    cases h with
    | delaying hp ht => exact .fetching hp (by omega)
  | answer =>
    cases h with
    | fetching hp ht => exact .inl ⟨ht, .inl fun _ _ hle => .itself hp hle⟩
  | send hmove =>
    cases h with
    | sending hw =>
      obtain ⟨rfl, hw'⟩ := hw.moveRequest_sending.1 _ _ hmove
      exact .awaiting hw'
    | awaiting hw => exact absurd hmove (hw.moveRequest_awaiting.1 _)
  | receive hmove =>
    cases h with
    | sending hw =>
      obtain ⟨rfl, hp, hgone⟩ := hw.moveRequest_sending.2 _ _ _ hmove
      exact .inr ⟨rfl, nofun, hp, fun _ _ => .running (hgone _ _ _)⟩
    | awaiting hw =>
      obtain ⟨ht, hrest⟩ := hw.moveRequest_awaiting.2 _ _ _ hmove
      exact .inl ⟨ht, hrest.imp_left fun hrest T' t hle => .running (hrest T' t hle)⟩

end Poller

end RemoteConsole
