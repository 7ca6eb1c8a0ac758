import RemoteConsole.Proofs.Poller.Errand

/-!
# How soon a fetch begins

What `Proofs.Poller.Errand` says of outcomes, for the beginning of fetches: after a failure that is
to be waited out until `T`, no fetch begins before. A worker needs a bound of its own, because it
goes on with its order when the stream has given up its poll.

* `Scene.Onset T now s s'`: no fetch began from `s` to `s'`, or one did at `now`, not before `T`.
* `Worker.Withholds`: the worker begins no fetch before `T`. `Withholds.move`: every step keeps to
  it.
* `Poller.Withholds`: so does the worker of a poller. `Rests.withholds`, `Errand.withholds`: it is
  so for a poll whose outcome does not come before `T`.
* `Errand.onset`: a fetch that a step of the poll begins is not begun before `T`.
-/

namespace RemoteConsole

/-- No fetch began, or one did at `now`, and not before `T`. -/
def Scene.Onset (T now : Nat) (s s' : Scene) : Prop :=
  s'.begun = s.begun ∨ T ≤ now ∧ s'.begun = s.begun ++ [now]

namespace Worker

/-- Unless it is gone, the worker begins no fetch before `T`. -/
structure Withholds (T now : Nat) (w : Worker) : Prop where
  orders : w.activity ≠ .gone → ∀ d, .fetch d ∈ w.orders → T ≤ now + d
  delaying : ∀ t, w.activity = .delaying t → T ≤ max t now

variable {server : Server} {s s' : Scene} {failures : UInt32} {T T' t now now' : Nat}
  {w w' : Worker}

theorem Withholds.mono (h : w.Withholds T now) (hnow : now ≤ now') (hT : T' ≤ T ∨ T' ≤ now') :
    w.Withholds T' now' where
  orders hact d hd := by
    have := h.orders hact d hd
    omega
  delaying t ht := by
    have := h.delaying t ht
    omega

/-- A worker that takes no new order, and waits out no delay. -/
theorem Withholds.congr (h : w.Withholds T now) (hgone : w.activity ≠ .gone)
    (horders : ∀ d, .fetch d ∈ w'.orders → .fetch d ∈ w.orders)
    (hact : ∀ t, w'.activity ≠ .delaying t) : w'.Withholds T now where
  orders _ d hd := h.orders hgone d (horders d hd)
  delaying t ht := absurd ht (hact t)

theorem report_orders (w : Worker) (o : Outcome) : (w.report o).orders = w.orders := by
  unfold report
  split
  · rfl
  · split <;> rfl

theorem report_ne_delaying (w : Worker) (o : Outcome) (t : Nat) :
    (w.report o).activity ≠ .delaying t := by
  unfold report
  split
  · nofun
  · split <;> nofun

/-- A fetch begins, or is given up for want of a connection. -/
theorem Withholds.beginFetch (h : w.Withholds T now) (hgone : w.activity ≠ .gone) (ht : T ≤ now)
    (server : Server) (s : Scene) :
    (w.beginFetch server now s).1.Withholds T now ∧
      Scene.Onset T now s (w.beginFetch server now s).2 := by
  cases hconnection : w.connection with
  | ok =>
    rw [beginFetch_ok hconnection]
    exact ⟨h.congr hgone (fun _ => id) nofun, .inr ⟨ht, rfl⟩⟩
  | error e =>
    rw [beginFetch_error hconnection]
    refine ⟨h.congr hgone (fun d hd => ?_) (w.report_ne_delaying _), .inl rfl⟩
    rwa [report_orders] at hd

/-- Every step of a worker keeps to `T`. -/
theorem Withholds.move (h : w.Withholds T now) (hm : Move server now w s (w', s')) :
    w'.Withholds T now ∧ Scene.Onset T now s s' := by
  generalize hr : (w', s') = r at hm
  cases hm with
  | @connect rest ha ho =>
    cases hr
    refine ⟨h.congr (by rw [ha]; nofun) (fun d hd => ?_) (by rw [ha]; nofun),
      .inl (server.connect_begun s)⟩
    rw [ho]
    exact List.mem_cons_of_mem _ hd
  | @fetch rest ha ho =>
    have hgone : w.activity ≠ .gone := by rw [ha]; nofun
    have ht : T ≤ now := h.orders hgone 0 (by rw [ho]; exact List.mem_cons_self)
    have hrest : ({ w with orders := rest } : Worker).Withholds T now :=
      h.congr hgone (fun d hd => by rw [ho]; exact List.mem_cons_of_mem _ hd) (by rw [ha]; nofun)
    have hbegun := hrest.beginFetch hgone ht server s
    rwa [← hr] at hbegun
  | @delay rest d ha ho hd =>
    cases hr
    have hgone : w.activity ≠ .gone := by rw [ha]; nofun
    refine ⟨⟨fun _ d' hd' => h.orders hgone d' ?_, fun t ht => ?_⟩, .inl rfl⟩
    · rw [ho]
      exact List.mem_cons_of_mem _ hd'
    · cases ht
      have := h.orders hgone d (by rw [ho]; exact List.mem_cons_self)
      omega
  | @wake t ha ht =>
    have hle : T ≤ now := by
      have := h.delaying t ha
      omega
    have hbegun := h.beginFetch (by rw [ha]; nofun) hle server s
    rwa [← hr] at hbegun
  | answer ha =>
    cases hr
    refine ⟨h.congr (by rw [ha]; nofun) (fun d hd => ?_) (w.report_ne_delaying _), .inl rfl⟩
    rwa [report_orders] at hd
  | panic ha =>
    cases hr
    exact ⟨h.congr (by rw [ha]; nofun) (fun _ => id) nofun, .inl rfl⟩
  | reply ha =>
    cases hr
    exact ⟨h.congr (by rw [ha]; nofun) (fun _ => id) nofun, .inl rfl⟩

theorem Withholds.of_moveRequest_ready {r r' : Request} {o : Outcome} (h : w.Withholds T now)
    (hm : w.moveRequest r = .ready o (w', r')) : w'.Withholds T now := by
  obtain ⟨horders, hactivity, -⟩ := Worker.of_moveRequest_ready hm
  refine ⟨fun hact d hd => h.orders ?_ d ?_, fun t ht => h.delaying t ?_⟩
  · rwa [← hactivity]
  · rwa [← horders]
  · rwa [← hactivity]

/-- A worker of which nothing is wanted has no order to fetch. -/
theorem Rests.withholds (h : w.Rests server s failures T t) (T' now : Nat) :
    w.Withholds T' now := by
  cases h with
  | receiving ho =>
    refine ⟨fun _ d hd => ?_, nofun⟩
    cases ho _ hd
  | gone => exact ⟨fun hgone => absurd rfl hgone, nofun⟩

theorem Errand.withholds (h : w.Errand server s failures T now) : w.Withholds T now := by
  cases h with
  | @ordered capacity d connects bound ho ht =>
    refine ⟨fun _ d' hd => ?_, nofun⟩
    rcases List.mem_append.mp hd with hd | hd
    · cases ho _ hd
    · cases List.mem_singleton.mp hd
      exact ht
  | delaying ht =>
    refine ⟨fun _ d hd => absurd hd List.not_mem_nil, fun t he => ?_⟩
    cases he
    exact ht
  | fetching | reporting | replied => exact ⟨fun _ d hd => absurd hd List.not_mem_nil, nofun⟩
  | gone => exact ⟨fun hgone => absurd rfl hgone, nofun⟩

end Worker

namespace Poller

/-- The worker of the poller, if it has one, begins no fetch before `T`. -/
def Withholds (T now : Nat) (p : Poller) : Prop := ∀ w, p = .running w → w.Withholds T now

variable {server : Server} {s s' : Scene} {failures : UInt32} {T T' t now now' capacity : Nat}
  {p p' : Poller} {poll : Poll}

theorem Withholds.mono (h : p.Withholds T now) (hnow : now ≤ now') (hT : T' ≤ T ∨ T' ≤ now') :
    p.Withholds T' now' :=
  fun w hw => (h w hw).mono hnow hT

theorem withholds_of_le (h : T ≤ now) : p.Withholds T now :=
  fun _ _ => ⟨fun _ _ _ => Nat.le_trans h (Nat.le_add_right _ _),
    fun _ _ => Nat.le_trans h (Nat.le_max_right _ _)⟩

theorem Withholds.stop (p : Poller) : p.stop.Withholds T now := by
  intro w hw
  cases p <;> cases hw

theorem FetchesItself.withholds (hp : p.FetchesItself) : p.Withholds T now := by
  intro w hw
  rcases hp with rfl | rfl <;> cases hw

theorem Withholds.moveWorker (h : p.Withholds T now)
    (hm : p.moveWorker server now s = some (p', s')) :
    p'.Withholds T now ∧ Scene.Onset T now s s' := by
  cases p with
  | running w =>
    obtain ⟨⟨w', s''⟩, hw, heq⟩ := Option.map_eq_some_iff.mp hm
    cases heq
    obtain ⟨hnext, honset⟩ := (h w rfl).move (.of_move hw)
    refine ⟨fun w₁ hw₁ => ?_, honset⟩
    cases hw₁
    exact hnext
  | direct | pending | fallback | stopped => cases hm

theorem Rests.withholds (h : p.Rests server s failures T t) (T' now : Nat) :
    p.Withholds T' now := by
  cases h with
  | itself hp => exact hp.withholds
  | pending => nofun
  | running hw =>
    intro w₁ hw₁
    cases hw₁
    exact hw.withholds T' now

theorem Errand.withholds (h : Errand server s failures T now p poll) : p.Withholds T now := by
  cases h with
  | fresh hp => exact hp.withholds T now
  | delaying hp | fetching hp => exact hp.withholds
  | sending hw =>
    intro w₁ hw₁
    cases hw₁
    exact hw.withholds T now
  | awaiting hw =>
    intro w₁ hw₁
    cases hw₁
    exact hw.withholds

theorem Errand.le_of_fetching {f : Fetch} (h : Errand server s failures T now p (.fetching f)) :
    T ≤ now := by
  cases h with
  | fetching _ ht => exact ht

/-- A step of the poll begins no fetch before `T`, and neither does the worker after it. -/
theorem Errand.onset {m : Motion Outcome State} {r : State} (hcapacity : 0 < capacity)
    (h : Errand server s failures T now p poll) (hm : Move server capacity now s p poll m)
    (hafter : after? m = some r) : r.1.Withholds T now ∧ Scene.Onset T now s r.2.2 := by
  have hkeeps := h.keeps hcapacity hm
  cases hm with
  | fetch | wake =>
    cases hafter
    exact ⟨Errand.withholds hkeeps, .inr ⟨Errand.le_of_fetching hkeeps, rfl⟩⟩
  | delay | hire | request | send =>
    cases hafter
    exact ⟨Errand.withholds hkeeps, .inl rfl⟩
  | fallBack hzero | unconnected hzero => omega
  | unspawned | shutDown => cases hafter; exact ⟨nofun, .inl rfl⟩
  | answer | panic => cases hafter; exact ⟨h.withholds, .inl rfl⟩
  | receive hmove =>
    cases hafter
    refine ⟨fun w₁ hw₁ => ?_, .inl rfl⟩
    cases hw₁
    exact (h.withholds _ rfl).of_moveRequest_ready hmove

end Poller

end RemoteConsole
