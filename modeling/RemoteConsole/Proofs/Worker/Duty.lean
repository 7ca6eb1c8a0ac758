import RemoteConsole.Proofs.Feed
import RemoteConsole.Proofs.Worker.Moves

/-!
# What a worker is about

* `Duty`: how far the fetch that a worker was told to make has come.
* `Worker.Does server feed n s duty w`: the worker has handed over the outcomes of `n` fetches and
  is at `duty` with the next. One constructor for each shape of a worker; there are no others.
* `exists_tallies`: a worker goes on counting its failures in a row.
* `Duty.Step`: how a duty goes on. `does_move` says that a worker does nothing else,
  `does_can_move` that it goes on unless it waits for a time, and `rank_lt_of_move` that it cannot
  go on for ever.
* `does_moveRequest_sending`, `does_moveRequest_awaiting`: what comes of a request to the worker.

A worker whose server connects and does not break off is never gone, unless its counter of errors
in a row is full.
-/

namespace RemoteConsole

/-- How far a fetch has come: none is wanted, it is ordered after a delay, its delay runs, it is
under way, or its outcome is there. -/
inductive Duty where
  | idle
  | ordered (delay : Nat)
  | delaying (wake : Nat)
  | fetching (due : Nat)
  | answered
deriving DecidableEq

namespace Duty

/-- The fetches under way. -/
def inFlight : Duty → Nat
  | .fetching _ => 1
  | .idle => 0
  | .ordered _ => 0
  | .delaying _ => 0
  | .answered => 0

/-- The fetches that have begun. -/
def begun : Duty → Nat
  | .fetching _ => 1
  | .answered => 1
  | .idle => 0
  | .ordered _ => 0
  | .delaying _ => 0

/-- The time that is waited for. -/
def wake? : Duty → Option Nat
  | .delaying t => some t
  | .fetching due => some due
  | .idle => none
  | .ordered _ => none
  | .answered => none

/-- How a duty goes on, and what happens between the stream and its server by it. -/
inductive Step (server : Server) (feed : Feed) (n now : Nat) : Duty → Scene → Duty → Scene → Prop
  | connect {duty : Duty} {s : Scene} (h : duty.begun = 0) (hc : (server.connect s).1 = .ok ()) :
      Step server feed n now duty s duty (server.connect s).2
  | delay {d : Nat} {s : Scene} (hd : d ≠ 0) :
      Step server feed n now (.ordered d) s (.delaying (now + d)) s
  | fetch {s : Scene} :
      Step server feed n now (.ordered 0) s (.fetching (now + feed.latency n))
        (server.begin now s).2
  | wake {t : Nat} {s : Scene} (ht : t ≤ now) :
      Step server feed n now (.delaying t) s (.fetching (now + feed.latency n))
        (server.begin now s).2
  | answer {due : Nat} {s : Scene} (hd : due ≤ now) :
      Step server feed n now (.fetching due) s .answered s.finish
  | reply {s : Scene} : Step server feed n now .answered s .answered s

variable {server : Server} {feed : Feed} {n now : Nat} {duty duty' : Duty} {s s' : Scene}

theorem Step.idle_iff (h : Step server feed n now duty s duty' s') :
    duty' = .idle ↔ duty = .idle := by
  cases h <;> simp

/-- A duty that goes on keeps count of the fetches under way. -/
theorem Step.inFlight_eq (h : Step server feed n now duty s duty' s')
    (hs : s.inFlight = duty.inFlight) : s'.inFlight = duty'.inFlight := by
  cases h with
  | connect => rw [server.connect_inFlight, hs]
  | delay => exact hs
  | fetch => exact congrArg (· + 1) hs
  | wake => exact congrArg (· + 1) hs
  | answer => exact congrArg (· - 1) hs
  | reply => exact hs

end Duty

namespace Worker

/-- The shapes of a worker that has handed over the outcomes of `n` fetches. -/
inductive Does (server : Server) (feed : Feed) (n : Nat) (s : Scene) : Duty → Worker → Prop
  | resting {capacity : Nat} {k : UInt32} (hk : k.toNat = feed.failuresInRow n) (hs : s.calls = n) :
      Does server feed n s .idle ⟨capacity, [], [], false, .receiving, .ok (), k⟩
  | hired {capacity : Nat} {bound : Except FetchError Unit} {k : UInt32}
      (hk : k.toNat = feed.failuresInRow n) (hs : s.calls = n)
      (hc : (server.connect s).1 = .ok ()) :
      Does server feed n s .idle ⟨capacity, [.connect], [], false, .receiving, bound, k⟩
  | told {capacity d : Nat} {k : UInt32} (hk : k.toNat = feed.failuresInRow n) (hs : s.calls = n) :
      Does server feed n s (.ordered d)
        ⟨capacity, [.fetch d], [], true, .receiving, .ok (), k⟩
  | hiredAndTold {capacity d : Nat} {bound : Except FetchError Unit} {k : UInt32}
      (hk : k.toNat = feed.failuresInRow n) (hs : s.calls = n)
      (hc : (server.connect s).1 = .ok ()) :
      Does server feed n s (.ordered d)
        ⟨capacity, [.connect, .fetch d], [], true, .receiving, bound, k⟩
  | delaying {capacity t : Nat} {k : UInt32} (hk : k.toNat = feed.failuresInRow n)
      (hs : s.calls = n) :
      Does server feed n s (.delaying t) ⟨capacity, [], [], true, .delaying t, .ok (), k⟩
  | fetching {capacity due : Nat} {k : UInt32} (hk : k.toNat = feed.failuresInRow n)
      (hs : s.calls = n + 1) :
      Does server feed n s (.fetching due)
        ⟨capacity, [], [], true, .fetching ⟨due, .answer (feed.answer n)⟩, .ok (), k⟩
  | reporting {capacity : Nat} {k : UInt32} (hk : k.toNat = feed.failuresInRow (n + 1))
      (hs : s.calls = n + 1) :
      Does server feed n s .answered
        ⟨capacity, [], [], true, .reporting (feed.answer n), .ok (), k⟩
  | replied {capacity : Nat} {k : UInt32} (hk : k.toNat = feed.failuresInRow (n + 1))
      (hs : s.calls = n + 1) :
      Does server feed n s .answered
        ⟨capacity, [], [feed.answer n], true, .receiving, .ok (), k⟩

/-- A bound for the steps that a worker can take by itself. -/
def rank (w : Worker) : Nat :=
  4 * w.orders.length +
    match w.activity with
    | .delaying _ => 3
    | .fetching _ => 2
    | .reporting _ => 1
    | .receiving => 0
    | .gone => 0

variable {server : Server} {feed : Feed} {n now : Nat} {duty : Duty} {s s' : Scene} {w w' : Worker}

/-- A worker that is hired has done nothing. -/
theorem does_spawned (capacity : Nat) (hs : s.calls = 0) (hc : (server.connect s).1 = .ok ()) :
    Does server feed 0 s .idle (.spawned capacity) :=
  .hired rfl hs hc

theorem Does.calls_eq (h : Does server feed n s duty w) : s.calls = n + duty.begun := by
  cases h <;> assumption

theorem Does.isGone_eq (h : Does server feed n s duty w) : w.isGone = false := by
  cases h <;> rfl

theorem Does.outstanding_iff (h : Does server feed n s duty w) :
    w.outstanding = true ↔ duty ≠ .idle := by
  cases h <;> simp

/-- What leaves the stream does not matter to its worker. -/
theorem Does.congr (h : Does server feed n s duty w) (hcalls : s'.calls = s.calls)
    (hattempts : s'.attempts = s.attempts) : Does server feed n s' duty w := by
  cases h with
  | resting hk hs => exact .resting hk (hcalls.trans hs)
  | hired hk hs hc =>
    exact .hired hk (hcalls.trans hs) ((server.connect_congr hattempts).trans hc)
  | told hk hs => exact .told hk (hcalls.trans hs)
  | hiredAndTold hk hs hc =>
    exact .hiredAndTold hk (hcalls.trans hs) ((server.connect_congr hattempts).trans hc)
  | delaying hk hs => exact .delaying hk (hcalls.trans hs)
  | fetching hk hs => exact .fetching hk (hcalls.trans hs)
  | reporting hk hs => exact .reporting hk (hcalls.trans hs)
  | replied hk hs => exact .replied hk (hcalls.trans hs)

theorem begin_eq (hcall : server.call = feed.call) (now : Nat) {s : Scene} (hs : s.calls = n) :
    (server.begin now s).1 = ⟨now + feed.latency n, .answer (feed.answer n)⟩ := by
  unfold Server.begin
  rw [hcall, hs]
  rfl

/-- A worker that has nothing to do, after so many failures in a row. -/
def settled (capacity : Nat) (failures : UInt32) : Worker :=
  ⟨capacity, [], [], false, .receiving, .ok (), failures⟩

/-- A worker that has a request to answer. -/
def engaged (capacity : Nat) (failures : UInt32) (orders : List Order) (activity : Activity) :
    Worker :=
  ⟨capacity, orders, [], true, activity, .ok (), failures⟩

/-- A worker that has counted the one number of failures in a row counts the other after the
outcome, and is not gone. -/
def Tallies (k : UInt32) (o : Outcome) (k' : UInt32) : Prop :=
  ∀ capacity activity, (engaged capacity k [] activity).report o =
    engaged capacity k' [] (.reporting o)

/-- The worker counts its failures, as long as the counter is not full. -/
theorem exists_tallies {k : UInt32} (hrow : feed.failuresInRow (n + 1) < 2 ^ 32)
    (hk : k.toNat = feed.failuresInRow n) :
    ∃ k' : UInt32, k'.toNat = feed.failuresInRow (n + 1) ∧ Tallies k (feed.answer n) k' := by
  cases ha : feed.answer n with
  | ok chunk => exact ⟨0, by rw [Feed.failuresInRow_ok ha]; rfl, fun _ _ => report_ok chunk⟩
  | error e =>
    rw [Feed.failuresInRow_error ha] at hrow ⊢
    have hfull : k ≠ 0xffffffff := by
      intro he
      rw [he] at hk
      have : (0xffffffff : UInt32).toNat = 0xffffffff := rfl
      omega
    refine ⟨k + 1, ?_, fun _ _ => report_error hfull⟩
    rw [UInt32.toNat_add, hk]
    have : (1 : UInt32).toNat = 1 := rfl
    omega

theorem does_report {capacity : Nat} {k : UInt32} {act : Activity}
    (hrow : feed.failuresInRow (n + 1) < 2 ^ 32) (hk : k.toNat = feed.failuresInRow n)
    (hs : s.calls = n + 1) :
    Does server feed n s .answered
      (report ⟨capacity, [], [], true, act, .ok (), k⟩ (feed.answer n)) := by
  obtain ⟨k', hk', htallies⟩ := exists_tallies hrow hk
  have hreport : report ⟨capacity, [], [], true, act, .ok (), k⟩ (feed.answer n) =
    engaged capacity k' [] (.reporting (feed.answer n)) := htallies capacity act
  rw [hreport]
  exact .reporting hk' hs

/-- A worker whose connection is there begins to fetch. -/
theorem does_beginFetch (now : Nat) {capacity : Nat} {k : UInt32} {act : Activity}
    (hcall : server.call = feed.call) (hk : k.toNat = feed.failuresInRow n) (hs : s.calls = n) :
    beginFetch server now ⟨capacity, [], [], true, act, .ok (), k⟩ s =
        (⟨capacity, [], [], true, .fetching ⟨now + feed.latency n, .answer (feed.answer n)⟩,
            .ok (), k⟩,
          (server.begin now s).2) ∧
      Does server feed n (server.begin now s).2 (.fetching (now + feed.latency n))
        ⟨capacity, [], [], true, .fetching ⟨now + feed.latency n, .answer (feed.answer n)⟩,
          .ok (), k⟩ := by
  refine ⟨?_, .fetching hk (congrArg (· + 1) hs)⟩
  rw [beginFetch_ok rfl, begin_eq hcall now hs]

/-- A worker that nothing is wanted of may connect, and nothing else. -/
theorem does_move_idle (h : Does server feed n s .idle w)
    (hm : w.move server now s = some (w', s')) :
    Does server feed n s' .idle w' ∧ s' = (server.connect s).2 ∧ (server.connect s).1 = .ok () := by
  generalize hr : (w', s') = r at hm
  replace hm := Move.of_move hm
  cases h with
  | resting hk hs => cases hm <;> contradiction
  | hired hk hs hc =>
    cases hm with
    | connect ha ho =>
      cases hr; cases ho
      rw [hc]
      exact ⟨.resting hk ((server.connect_calls s).trans hs), rfl, rfl⟩
    | fetch _ ho => cases ho
    | delay _ ho _ => cases ho
    | _ => contradiction

/-- A worker does nothing but go on with its duty. -/
theorem does_move (hcall : server.call = feed.call) (hrow : feed.failuresInRow (n + 1) < 2 ^ 32)
    (h : Does server feed n s duty w) (hm : w.move server now s = some (w', s')) :
    ∃ duty', Does server feed n s' duty' w' ∧ Duty.Step server feed n now duty s duty' s' := by
  by_cases hidle : duty = .idle
  · subst hidle
    obtain ⟨hw, rfl, hc⟩ := does_move_idle h hm
    exact ⟨.idle, hw, .connect rfl hc⟩
  generalize hr : (w', s') = r at hm
  replace hm := Move.of_move hm
  cases h with
  | resting | hired => exact absurd rfl hidle
  | told hk hs =>
    cases hm with
    | fetch ha ho =>
      cases ho
      obtain ⟨heq, hd⟩ := does_beginFetch now hcall hk hs
      rw [heq] at hr; cases hr
      exact ⟨_, hd, .fetch⟩
    | delay ha ho hd =>
      cases hr; cases ho
      exact ⟨_, .delaying hk hs, .delay hd⟩
    | connect _ ho => cases ho
    | _ => contradiction
  | hiredAndTold hk hs hc =>
    cases hm with
    | connect ha ho =>
      cases hr; cases ho
      refine ⟨_, ?_, .connect rfl hc⟩
      rw [hc]
      exact .told hk ((server.connect_calls s).trans hs)
    | fetch _ ho => cases ho
    | delay _ ho _ => cases ho
    | _ => contradiction
  | delaying hk hs =>
    cases hm with
    | wake ha ht =>
      cases ha
      obtain ⟨heq, hd⟩ := does_beginFetch now hcall hk hs
      rw [heq] at hr; cases hr
      exact ⟨_, hd, .wake ht⟩
    | _ => contradiction
  | fetching hk hs =>
    cases hm with
    | answer ha hd hreply =>
      cases ha; cases hreply; cases hr
      exact ⟨.answered, does_report hrow hk hs, .answer hd⟩
    | panic ha _ hreply => cases ha; cases hreply
    | _ => contradiction
  | reporting hk hs =>
    cases hm with
    | reply ha hc =>
      cases ha; cases hr
      exact ⟨.answered, .replied hk hs, .reply⟩
    | _ => contradiction
  | replied hk hs => cases hm <;> contradiction

/-- A worker that has something to do and does not wait for a time can take a step. -/
theorem does_can_move (now : Nat) (h : Does server feed n s duty w) (hcap : 0 < w.capacity)
    (hreplies : w.replies = []) (hbusy : w.orders ≠ [] ∨ duty ≠ .idle) :
    (w.move server now s).isSome = true ∨
      ∃ t, now < t ∧ duty.wake? = some t ∧ w.wake? = some t := by
  cases h with
  | resting hk hs => rcases hbusy with h | h <;> exact absurd rfl h
  | hired hk hs hc | told hk hs | hiredAndTold hk hs hc => exact .inl rfl
  | @delaying _ t _ hk hs =>
    by_cases ht : t ≤ now
    · refine .inl ?_
      simp only [move, if_pos ht, Option.isSome_some]
    · exact .inr ⟨t, Nat.lt_of_not_le ht, rfl, rfl⟩
  | @fetching _ due _ hk hs =>
    by_cases hd : due ≤ now
    · refine .inl ?_
      simp only [move, if_pos hd, Option.isSome_some]
    · exact .inr ⟨due, Nat.lt_of_not_le hd, rfl, rfl⟩
  | reporting hk hs =>
    refine .inl ?_
    simp only [move, List.length_nil, if_pos hcap, Option.isSome_some]
  | replied hk hs => cases hreplies

/-! ## Requests -/

/-- A request that is to be sent is sent when there is room in the channel. -/
theorem does_moveRequest_sending (d : Nat) (h : Does server feed n s .idle w) :
    (∃ w', w.moveRequest (.sending d) = .moved (w', .awaiting) ∧
      Does server feed n s (.ordered d) w' ∧ w'.capacity = w.capacity ∧
      w'.orders.length = w.orders.length + 1 ∧ w'.rank = w.rank + 4) ∨
    w.moveRequest (.sending d) = .blocked ∧ ¬ w.orders.length < w.capacity := by
  have hgone := h.isGone_eq
  by_cases hroom : w.orders.length < w.capacity
  · refine .inl ⟨{ w with orders := w.orders ++ [.fetch d], outstanding := true }, ?_, ?_, rfl,
      List.length_append, ?_⟩
    · simp only [moveRequest, hgone, Bool.false_eq_true, ↓reduceIte, if_pos hroom]
    · cases h with
      | resting hk hs => exact .told hk hs
      | hired hk hs hc => exact .hiredAndTold hk hs hc
    · cases h with
      | resting hk hs => rfl
      | hired hk hs hc => rfl
  · refine .inr ⟨?_, hroom⟩
    simp only [moveRequest, hgone, Bool.false_eq_true, ↓reduceIte, if_neg hroom]

/-- A request that waits has its answer as soon as the worker has replied. -/
theorem does_moveRequest_awaiting (hd : duty ≠ .idle) (h : Does server feed n s duty w) :
    (∃ w', w.moveRequest .awaiting = .ready (feed.answer n) (w', .awaiting) ∧ duty = .answered ∧
      Does server feed (n + 1) s .idle w' ∧ w'.capacity = w.capacity ∧
      w.replies.length = w'.replies.length + 1) ∨
    w.moveRequest .awaiting = .blocked ∧ w.replies = [] := by
  cases h with
  | replied hk hs => exact .inl ⟨_, rfl, rfl, .resting hk hs, rfl, rfl⟩
  | resting | hired => exact absurd rfl hd
  | told | hiredAndTold | delaying | fetching | reporting => exact .inr ⟨rfl, rfl⟩

/-! ## Rank -/

theorem rank_report_le (w : Worker) (o : Outcome) :
    (w.report o).rank ≤ 4 * w.orders.length + 1 := by
  unfold report rank
  split
  · exact Nat.le_refl _
  · split
    · exact Nat.le_succ _
    · exact Nat.le_refl _

theorem rank_beginFetch_le (server : Server) (now : Nat) (w : Worker) (s : Scene) :
    (w.beginFetch server now s).1.rank ≤ 4 * w.orders.length + 2 := by
  unfold beginFetch
  split
  · exact Nat.le_trans (rank_report_le w _) (by omega)
  · exact Nat.le_refl _

/-- Every step of a worker lowers its rank. -/
theorem rank_lt_of_move (hm : w.move server now s = some (w', s')) : w'.rank < w.rank := by
  generalize hr : (w', s') = r at hm
  replace hm := Move.of_move hm
  cases hm with
  | connect ha ho => cases hr; simp only [rank, ho, ha, List.length_cons]; omega
  | @fetch rest ha ho =>
    have := rank_beginFetch_le server now { w with orders := rest } s
    rw [← hr] at this
    simp only [rank, ho, List.length_cons] at this ⊢
    omega
  | delay ha ho hd => cases hr; simp only [rank, ho, ha, List.length_cons]; omega
  | wake ha ht =>
    have := rank_beginFetch_le server now w s
    rw [← hr] at this
    simp only [rank, ha] at this ⊢
    omega
  | @answer f o ha hd hreply =>
    have := rank_report_le w o
    cases hr
    simp only [rank, ha] at this ⊢
    omega
  | panic ha hd hreply => cases hr; simp only [rank, ha]; omega
  | reply ha hc => cases hr; simp only [rank, ha]; omega

end Worker

end RemoteConsole
