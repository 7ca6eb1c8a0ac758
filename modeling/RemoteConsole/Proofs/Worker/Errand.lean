import RemoteConsole.Lifecycle
import RemoteConsole.Proofs.Worker.Moves

/-!
# How long a reply takes at least

`T` is a time before which no outcome may come. An order that is given at the time `now` for a fetch
after a delay of `d` keeps to it when `T ≤ now + d`, as long as there is a worker that heeds it.

* `Server.Panicked`: one of the first fetches broke off.
* `tally`: the errors in a row, as stream and worker count them.
* `Worker.Rests`: nothing is wanted of the worker; if it is gone, then because a fetch broke off.
* `Worker.Errand`: an order is being carried out, and its reply does not come before `T`.
* `Rests.moveRequest_sending`, `Errand.moveRequest_awaiting`: what comes of a request. Only a
  request to a worker that was gone before is answered early.

Nothing is asked of the server: it may refuse, answer late or never, and break off.
-/

namespace RemoteConsole

/-- One of the first `n` fetches breaks off. -/
def Server.Panicked (server : Server) (n : Nat) : Prop := ∃ i < n, (server.call i).reply = .panic

theorem Server.Panicked.mono {server : Server} {m n : Nat} (h : server.Panicked m) (hle : m ≤ n) :
    server.Panicked n := by
  obtain ⟨i, hi, hpanic⟩ := h
  exact ⟨i, by omega, hpanic⟩

/-- The errors in a row after another outcome. -/
def tally (failures : UInt32) : Outcome → UInt32
  | .ok _ => 0
  | .error _ => failures + 1

namespace Worker

/-- The shapes of a worker of which nothing is wanted when so many errors came in a row. It can be
told to fetch at `t`, which is not before `T`, unless it is gone. -/
inductive Rests (server : Server) (s : Scene) (failures : UInt32) (T t : Nat) : Worker → Prop
  | receiving {capacity : Nat} {connects : List Order} {bound : Except FetchError Unit}
      (ho : ∀ order ∈ connects, order = .connect) (ht : T ≤ t) :
      Rests server s failures T t ⟨capacity, connects, [], false, .receiving, bound, failures⟩
  | gone {capacity : Nat} {orders : List Order} {bound : Except FetchError Unit} {k : UInt32}
      (hp : server.Panicked s.calls) :
      Rests server s failures T t ⟨capacity, orders, [], false, .gone, bound, k⟩

/-- The shapes of a worker that was told to fetch after so many errors in a row, not before `T`. -/
inductive Errand (server : Server) (s : Scene) (failures : UInt32) (T now : Nat) : Worker → Prop
  | ordered {capacity d : Nat} {connects : List Order} {bound : Except FetchError Unit}
      (ho : ∀ order ∈ connects, order = .connect) (ht : T ≤ now + d) :
      Errand server s failures T now
        ⟨capacity, connects ++ [.fetch d], [], true, .receiving, bound, failures⟩
  | delaying {capacity wake : Nat} {bound : Except FetchError Unit} (ht : T ≤ max wake now) :
      Errand server s failures T now ⟨capacity, [], [], true, .delaying wake, bound, failures⟩
  | fetching {capacity due i : Nat} {bound : Except FetchError Unit} (hi : i < s.calls)
      (ht : T ≤ now) :
      Errand server s failures T now
        ⟨capacity, [], [], true, .fetching ⟨due, (server.call i).reply⟩, bound, failures⟩
  | reporting {capacity : Nat} {o : Outcome} {bound : Except FetchError Unit} (ht : T ≤ now) :
      Errand server s failures T now
        ⟨capacity, [], [], true, .reporting o, bound, tally failures o⟩
  | replied {capacity : Nat} {o : Outcome} {bound : Except FetchError Unit} (ht : T ≤ now) :
      Errand server s failures T now
        ⟨capacity, [], [o], true, .receiving, bound, tally failures o⟩
  | gone {capacity : Nat} {bound : Except FetchError Unit} {k : UInt32}
      (hcause : server.Panicked s.calls ∨ failures = Lifecycle.lastFailure) (ht : T ≤ now) :
      Errand server s failures T now ⟨capacity, [], [], true, .gone, bound, k⟩

variable {server : Server} {s s' : Scene} {failures : UInt32} {T T' t t' now : Nat}
  {w w' : Worker}

/-! ## The worker's side -/

theorem Rests.mono (h : w.Rests server s failures T t) (hcalls : s.calls ≤ s'.calls)
    (ht : T ≤ t → T' ≤ t') : w.Rests server s' failures T' t' := by
  cases h with
  | receiving ho hle => exact .receiving ho (ht hle)
  | gone hp => exact .gone (hp.mono hcalls)

theorem Errand.mono (h : w.Errand server s failures T now) (hcalls : s.calls ≤ s'.calls)
    {now' : Nat} (hnow : now ≤ now') (ht : T' ≤ T ∨ T' ≤ now') :
    w.Errand server s' failures T' now' := by
  cases h with
  | ordered ho hle => exact .ordered ho (by omega)
  | delaying hle => exact .delaying (by omega)
  | fetching hi hle => exact .fetching (by omega) (by omega)
  | reporting hle => exact .reporting (by omega)
  | replied hle => exact .replied (by omega)
  | gone hcause hle => exact .gone (hcause.imp_left (·.mono hcalls)) (by omega)

/-- A worker of which nothing is wanted connects, and does nothing else. -/
theorem Rests.move (h : w.Rests server s failures T t)
    (hm : w.move server now s = some (w', s')) : w'.Rests server s' failures T t := by
  generalize hr : (w', s') = r at hm
  replace hm := Move.of_move hm
  cases h with
  | receiving ho ht =>
    cases hm with
    | connect _ horders =>
      cases hr
      dsimp only at horders
      subst horders
      exact .receiving (fun order hmem => ho order (List.mem_cons_of_mem _ hmem)) ht
    | fetch _ horders | delay _ horders _ =>
      dsimp only at horders
      subst horders
      exact absurd (ho _ List.mem_cons_self) (by simp)
    | wake ha | answer ha | panic ha | reply ha => cases ha
  | gone hp => cases hm <;> contradiction

/-- The report of an outcome, or the end of a worker whose counter is full. -/
theorem errand_report {capacity : Nat} {act : Activity} {bound : Except FetchError Unit}
    (o : Outcome) (ht : T ≤ now) :
    (report ⟨capacity, [], [], true, act, bound, failures⟩ o).Errand server s failures T now := by
  cases o with
  | ok chunk => exact .reporting ht
  | error e =>
    by_cases hfull : failures = 0xffffffff
    · unfold report
      rw [if_pos hfull]
      exact .gone (.inr hfull) ht
    · rw [report_error hfull]
      exact .reporting ht

/-- The fetch begins, or is given up for want of a connection. -/
theorem errand_beginFetch {capacity : Nat} {act : Activity} {bound : Except FetchError Unit}
    (ht : T ≤ now)
    (hr : (w', s') = beginFetch server now ⟨capacity, [], [], true, act, bound, failures⟩ s) :
    w'.Errand server s' failures T now := by
  cases bound with
  | ok =>
    rw [beginFetch_ok rfl] at hr
    cases hr
    exact .fetching (Nat.lt_succ_self s.calls) ht
  | error e =>
    rw [beginFetch_error rfl] at hr
    cases hr
    exact errand_report (.error e) ht

/-- The orders of a worker that was told to fetch: first those to connect. -/
theorem orders_cases {connects rest : List Order} {d : Nat} {order : Order}
    (ho : ∀ order ∈ connects, order = .connect) (h : connects ++ [.fetch d] = order :: rest) :
    (order = .connect ∧ ∃ connects', (∀ order ∈ connects', order = .connect) ∧
      rest = connects' ++ [.fetch d]) ∨
    order = .fetch d ∧ rest = [] := by
  cases connects with
  | nil => cases h; exact .inr ⟨rfl, rfl⟩
  | cons first connects =>
    obtain ⟨rfl, rfl⟩ := List.cons.inj h
    exact .inl ⟨ho _ List.mem_cons_self, connects,
      fun order hmem => ho order (List.mem_cons_of_mem _ hmem), rfl⟩

/-- A step of a worker that carries out an order. -/
theorem Errand.move (h : w.Errand server s failures T now)
    (hm : w.move server now s = some (w', s')) : w'.Errand server s' failures T now := by
  generalize hr : (w', s') = r at hm
  replace hm := Move.of_move hm
  cases h with
  | ordered ho ht =>
    cases hm with
    | connect _ horders =>
      rcases orders_cases ho horders with ⟨-, connects, hconnects, rfl⟩ | ⟨hfetch, -⟩
      · cases hr; exact .ordered hconnects ht
      · cases hfetch
    | fetch _ horders =>
      rcases orders_cases ho horders with ⟨hconnect, -⟩ | ⟨hfetch, rfl⟩
      · cases hconnect
      · cases hfetch; exact errand_beginFetch ht hr
    | delay _ horders _ =>
      rcases orders_cases ho horders with ⟨hconnect, -⟩ | ⟨hfetch, rfl⟩
      · cases hconnect
      · cases hfetch; cases hr; exact .delaying (by omega)
    | wake ha | answer ha | panic ha | reply ha => cases ha
  | delaying ht =>
    cases hm with
    | wake ha hle =>
      cases ha
      exact errand_beginFetch (by omega) hr
    | _ => contradiction
  | fetching hi ht =>
    cases hm with
    | answer ha hd hreply =>
      cases hr
      exact errand_report _ ht
    | panic ha hd hreply =>
      cases hr; cases ha
      exact .gone (.inl ⟨_, hi, hreply⟩) ht
    | _ => contradiction
  | reporting ht =>
    cases hm with
    | reply ha hroom =>
      cases hr; cases ha
      exact .replied ht
    | _ => contradiction
  | replied => cases hm <;> contradiction
  | gone => cases hm <;> contradiction

/-! ## The stream's side -/

/-- What comes of a request that is to be sent: it is sent, or the worker is gone for good. -/
theorem Rests.moveRequest_sending {d : Nat} (h : w.Rests server s failures T (now + d)) :
    (∀ w' r', w.moveRequest (.sending d) = .moved (w', r') →
      r' = .awaiting ∧ w'.Errand server s failures T now) ∧
    ∀ o w' r', w.moveRequest (.sending d) = .ready o (w', r') →
      o = .error stopped ∧ server.Panicked s.calls ∧
        ∀ failures' T' t, w'.Rests server s failures' T' t := by
  cases h with
  | receiving ho ht =>
    constructor
    · intro w' r' hm
      unfold moveRequest at hm
      simp only [isGone, Bool.false_eq_true, ↓reduceIte] at hm
      split at hm
      · cases hm; exact ⟨rfl, .ordered ho ht⟩
      · cases hm
    · intro o w' r' hm
      unfold moveRequest at hm
      simp only [isGone, Bool.false_eq_true, ↓reduceIte] at hm
      split at hm <;> cases hm
  | gone hp =>
    constructor
    · intro w' r' hm; cases hm
    · intro o w' r' hm; cases hm; exact ⟨rfl, hp, fun _ _ _ => .gone hp⟩

/-- What comes of a request that waits for its reply: nothing before `T`. Afterwards nothing is
wanted of the worker, unless the counter of errors is full. -/
theorem Errand.moveRequest_awaiting (h : w.Errand server s failures T now) :
    (∀ p, w.moveRequest .awaiting ≠ .moved p) ∧
    ∀ o w' r', w.moveRequest .awaiting = .ready o (w', r') →
      T ≤ now ∧ ((∀ T' t, T' ≤ t → w'.Rests server s (tally failures o) T' t) ∨
        failures = Lifecycle.lastFailure ∧ o = .error stopped) := by
  have hrests {capacity : Nat} {o : Outcome} {bound : Except FetchError Unit} (T' t : Nat)
      (ht : T' ≤ t) : Rests server s (tally failures o) T' t
        ⟨capacity, [], [], false, .receiving, bound, tally failures o⟩ :=
    .receiving (fun order hmem => absurd hmem List.not_mem_nil) ht
  refine ⟨fun p hm => ?_, fun o w' r' hm => ?_⟩
  · cases h <;> cases hm
  cases h with
  | replied ht => cases hm; exact ⟨ht, .inl hrests⟩
  | gone hcause ht =>
    cases hm
    rcases hcause with hp | hfull
    · exact ⟨ht, .inl fun _ _ _ => .gone hp⟩
    · exact ⟨ht, .inr ⟨hfull, rfl⟩⟩
  | ordered | delaying | fetching | reporting => cases hm

end Worker

end RemoteConsole
