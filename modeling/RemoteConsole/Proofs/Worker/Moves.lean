import RemoteConsole.Worker

/-!
# The moves of a worker

* `Worker.Move server now w s r`: the worker can take a step to `r`; one constructor for each kind
  of step. `Move.of_move`, `Move.move_eq`: these are the steps of
  `Worker.move`.
* `Worker.RequestMove w r m`: what comes of a request that is not held up, of `Worker.moveRequest`.
* `beginFetch_ok`, `report_ok`, `report_error`: what the parts of a step come to.
* `Server.connect_calls`, ...: what a connection attempt leaves alone.
-/

namespace RemoteConsole

namespace Server

variable (server : Server) (s : Scene)

/-- Whether a connection attempt succeeds depends on the attempts before it. -/
theorem connect_congr {s s' : Scene} (h : s'.attempts = s.attempts) :
    (server.connect s').1 = (server.connect s).1 := by
  unfold connect
  rw [h]
  split
  · rfl
  · dsimp only; split <;> rfl

/-- Only a server that has to be connected to is asked. -/
theorem connect_attempts :
    (server.connect s).2.attempts =
      s.attempts + if server.connection.isSome then 1 else 0 := by
  unfold connect
  cases server.connection with
  | none => rfl
  | some failure => dsimp only; split <;> rfl

/-- A server that refuses has been asked once more. -/
theorem attempts_of_error {e : FetchError} (h : (server.connect s).1 = .error e) :
    (server.connect s).2.attempts = s.attempts + 1 := by
  rw [connect_attempts]
  unfold connect at h
  cases hconnection : server.connection with
  | none => rw [hconnection] at h; cases h
  | some failure => rfl

theorem connect_calls : (server.connect s).2.calls = s.calls := by
  unfold connect
  split
  · rfl
  · dsimp only; split <;> rfl

theorem connect_inFlight : (server.connect s).2.inFlight = s.inFlight := by
  unfold connect
  split
  · rfl
  · dsimp only; split <;> rfl

theorem connect_begun : (server.connect s).2.begun = s.begun := by
  unfold connect
  split
  · rfl
  · dsimp only; split <;> rfl

theorem connect_content : (server.connect s).2.outlet.content = s.outlet.content := by
  unfold connect
  split
  · rfl
  · dsimp only; split <;> rfl

end Server

namespace Worker

/-- The steps of a worker: it takes an order to connect, to fetch at once or to fetch later, its
delay is over, its fetch is answered or breaks off, or it hands over a reply. -/
inductive Move (server : Server) (now : Nat) (w : Worker) (s : Scene) : Worker × Scene → Prop
  | connect {rest : List Order} (ha : w.activity = .receiving) (ho : w.orders = .connect :: rest) :
      Move server now w s
        ({ w with orders := rest, connection := (server.connect s).1 }, (server.connect s).2)
  | fetch {rest : List Order} (ha : w.activity = .receiving) (ho : w.orders = .fetch 0 :: rest) :
      Move server now w s (beginFetch server now { w with orders := rest } s)
  | delay {rest : List Order} {d : Nat} (ha : w.activity = .receiving)
      (ho : w.orders = .fetch d :: rest) (hd : d ≠ 0) :
      Move server now w s ({ w with orders := rest, activity := .delaying (now + d) }, s)
  | wake {t : Nat} (ha : w.activity = .delaying t) (ht : t ≤ now) :
      Move server now w s (beginFetch server now w s)
  | answer {f : Fetch} {o : Outcome} (ha : w.activity = .fetching f) (hd : f.due ≤ now)
      (hr : f.reply = .answer o) : Move server now w s (w.report o, s.finish)
  | panic {f : Fetch} (ha : w.activity = .fetching f) (hd : f.due ≤ now) (hr : f.reply = .panic) :
      Move server now w s ({ w with activity := .gone }, s)
  | reply {o : Outcome} (ha : w.activity = .reporting o) (hc : w.replies.length < w.capacity) :
      Move server now w s ({ w with replies := w.replies ++ [o], activity := .receiving }, s)

variable {server : Server} {now : Nat} {w : Worker} {s : Scene} {r : Worker × Scene}

theorem Move.of_move (h : w.move server now s = some r) : Move server now w s r := by
  unfold move at h
  split at h
  · next ha =>
    split at h
    · cases h
    · next order rest ho =>
      cases h
      cases order with
      | connect => exact .connect ha ho
      | fetch d =>
        by_cases hd : d = 0
        · subst hd; exact .fetch ha ho
        · unfold obey; dsimp only; rw [if_neg hd]; exact .delay ha ho hd
  · next t ha =>
    split at h
    · next ht => cases h; exact .wake ha ht
    · cases h
  · next f ha =>
    split at h
    · next hd =>
      split at h
      · next o hr => cases h; exact .answer ha hd hr
      · next hr => cases h; exact .panic ha hd hr
      · cases h
    · cases h
  · next o ha =>
    split at h
    · next hc => cases h; exact .reply ha hc
    · cases h
  · cases h

theorem Move.move_eq (h : Move server now w s r) : w.move server now s = some r := by
  cases h with
  | connect ha ho => simp only [move, ha, ho, obey]
  | fetch ha ho => simp only [move, ha, ho, obey, ↓reduceIte]
  | delay ha ho hd => simp only [move, ha, ho, obey, if_neg hd]
  | wake ha ht => simp only [move, ha, if_pos ht]
  | answer ha hd hr => simp only [move, ha, if_pos hd, hr]
  | panic ha hd hr => simp only [move, ha, if_pos hd, hr]
  | reply ha hc => simp only [move, ha, if_pos hc]

/-! ## The parts of a step -/

theorem beginFetch_ok (h : w.connection = .ok ()) :
    w.beginFetch server now s =
      ({ w with activity := .fetching (server.begin now s).1 }, (server.begin now s).2) := by
  unfold beginFetch; rw [h]

theorem beginFetch_error {e : FetchError} (h : w.connection = .error e) :
    w.beginFetch server now s = (w.report (.error e), s) := by
  unfold beginFetch; rw [h]

theorem report_ok (chunk : Option Chunk) :
    w.report (.ok chunk) = { w with failures := 0, activity := .reporting (.ok chunk) } := rfl

theorem report_capacity (w : Worker) (o : Outcome) : (w.report o).capacity = w.capacity := by
  unfold report
  split
  · rfl
  · split <;> rfl

theorem beginFetch_capacity (server : Server) (now : Nat) (w : Worker) (s : Scene) :
    (w.beginFetch server now s).1.capacity = w.capacity := by
  unfold beginFetch
  split
  · exact w.report_capacity _
  · rfl

/-- A worker's channels keep their size. -/
theorem Move.capacity_eq (h : Move server now w s r) : r.1.capacity = w.capacity := by
  cases h with
  | fetch => exact beginFetch_capacity server now _ s
  | wake => exact beginFetch_capacity server now w s
  | answer => exact w.report_capacity _
  | connect | delay | panic | reply => rfl

theorem beginFetch_calls (server : Server) (now : Nat) (w : Worker) (s : Scene) :
    s.calls ≤ (w.beginFetch server now s).2.calls := by
  unfold beginFetch
  split
  · exact Nat.le_refl _
  · exact Nat.le_succ _

/-- A step of a worker takes no fetch back. -/
theorem Move.calls_le (h : Move server now w s r) : s.calls ≤ r.2.calls := by
  cases h with
  | connect => exact Nat.le_of_eq (server.connect_calls s).symm
  | fetch => exact beginFetch_calls server now _ s
  | wake => exact beginFetch_calls server now w s
  | delay | answer | panic | reply => exact Nat.le_refl _

theorem report_error {e : FetchError} (h : w.failures ≠ 0xffffffff) :
    w.report (.error e) =
      { w with failures := w.failures + 1, activity := .reporting (.error e) } :=
  if_neg h

/-! ## Requests -/

/-- What comes of a request: the worker was gone before it was sent, it is sent, its reply is there,
or the worker is gone and has left none. -/
inductive RequestMove (w : Worker) : Request → Motion Outcome (Worker × Request) → Prop
  | unsent {d : Nat} (hgone : w.isGone = true) :
      RequestMove w (.sending d) (.ready (.error stopped) (w, .sending d))
  | send {d : Nat} (hgone : w.isGone = false) (hroom : w.orders.length < w.capacity) :
      RequestMove w (.sending d)
        (.moved ({ w with orders := w.orders ++ [.fetch d], outstanding := true }, .awaiting))
  | reply {o : Outcome} {rest : List Outcome} (hreplies : w.replies = o :: rest) :
      RequestMove w .awaiting (.ready o ({ w with replies := rest, outstanding := false }, .awaiting))
  | unanswered (hreplies : w.replies = []) (hgone : w.isGone = true) :
      RequestMove w .awaiting
        (.ready (.error stopped) ({ w with outstanding := false }, .awaiting))

variable {w' : Worker} {q q' : Request} {o : Outcome}

/-- A request that is not held up takes one of the steps. -/
theorem RequestMove.of_move {m : Motion Outcome (Worker × Request)} (h : w.moveRequest q = m)
    (hm : m ≠ .blocked) : RequestMove w q m := by
  subst h
  unfold moveRequest at hm ⊢
  cases q with
  | sending d =>
    dsimp only at hm ⊢
    split
    · next hgone => exact .unsent hgone
    · next hgone =>
      rw [if_neg hgone] at hm
      split
      · next hroom => exact .send (Bool.eq_false_iff.mpr hgone) hroom
      · next hroom => exact absurd (if_neg hroom) hm
  | awaiting =>
    dsimp only at hm ⊢
    split
    · next hreplies => exact .reply hreplies
    · next hreplies =>
      rw [hreplies] at hm
      split
      · next hgone => exact .unanswered hreplies hgone
      · next hgone => exact absurd (if_neg hgone) hm

/-- A request never breaks off. -/
theorem moveRequest_ne_crashed {p : Worker × Request} : w.moveRequest q ≠ .crashed p :=
  fun hm => nomatch RequestMove.of_move hm nofun

/-- A request that goes on leaves the replies alone, and the size of the channels. -/
theorem of_moveRequest_moved (h : w.moveRequest q = .moved (w', q')) :
    w'.replies = w.replies ∧ w'.activity = w.activity ∧ w'.capacity = w.capacity := by
  cases RequestMove.of_move h nofun with
  | send => exact ⟨rfl, rfl, rfl⟩

/-- To read a reply changes neither the orders of the worker nor what it does, nor the size of its
channels. -/
theorem of_moveRequest_ready (h : w.moveRequest q = .ready o (w', q')) :
    w'.orders = w.orders ∧ w'.activity = w.activity ∧ w'.capacity = w.capacity := by
  cases RequestMove.of_move h nofun with
  | unsent | reply | unanswered => exact ⟨rfl, rfl, rfl⟩

end Worker

end RemoteConsole
