import RemoteConsole.Proofs.Poller.Moves
import RemoteConsole.Proofs.Worker.Moves

/-!
# A worker that was refused, and one that was let in

A worker that cannot connect answers every order with the failure, after the delay of the order. So
does one that was let in and whose fetches fail with it at once; it only takes one step more.

* `Server.refusing err`: the server that lets in, and whose fetches fail at once.
* `Worker.Refused err w`: a worker that was refused. `Worker.admitted`: the worker let in.
  `Refused.move`, `admitted_moveRequest`: what the two do, and what comes of a request.
* `Poller.Posing err n p p'`: a poller with a worker that was refused or will be, after `n` attempts
  to connect, and the poller with the worker let in. `Posing.move`, `Posing.moveWorker`: they keep
  abreast.
-/

namespace RemoteConsole

/-- The server lets everyone in, and each of its fetches fails at once. -/
def Server.refusing (server : Server) (err : FetchError) : Server :=
  { server with connection := none, call := fun _ => ⟨0, .answer (.error err)⟩ }

variable {server : Server} {err : FetchError} {now : Nat} {s sc : Scene}

namespace Worker

/-- The worker as it would be if it had been let in. -/
def admitted (w : Worker) : Worker := { w with connection := .ok () }

/-- The worker was refused, and is not told to connect again. -/
structure Refused (err : FetchError) (w : Worker) : Prop where
  connection : w.connection = .error err
  orders : .connect ∉ w.orders
  activity : ∀ fetch, w.activity ≠ .fetching fetch

variable {w : Worker}

/-- Whether it was let in makes no difference to how a worker reports. -/
theorem admitted_report (w : Worker) (activity : Activity) (o : Outcome) :
    ({ w.admitted with activity := activity } : Worker).report o = (w.report o).admitted := by
  cases o with
  | ok chunk => rfl
  | error e =>
    by_cases hfull : w.failures = 0xffffffff
    · simp [report, admitted, hfull]
    · simp [report, admitted, hfull]

theorem Refused.report (h : w.Refused err) (o : Outcome) : (w.report o).Refused err := by
  cases o with
  | ok chunk => exact ⟨h.connection, h.orders, nofun⟩
  | error e =>
    unfold Worker.report
    dsimp only
    split
    · exact ⟨h.connection, h.orders, nofun⟩
    · exact ⟨h.connection, h.orders, nofun⟩

theorem Refused.congr (h : w.Refused err) {w' : Worker} (hconnection : w'.connection = w.connection)
    (horders : .connect ∉ w'.orders) (hactivity : ∀ fetch, w'.activity ≠ .fetching fetch) :
    w'.Refused err :=
  ⟨hconnection.trans h.connection, horders, hactivity⟩

/-- The steps of the two: none, one step each, or a report and a fetch that fails at once. -/
inductive Abreast (server : Server) (err : FetchError) (now : Nat) (w : Worker) (s sc : Scene) :
    Prop
  | rest (h : w.move server now s = none)
      (h' : w.admitted.move (server.refusing err) now sc = none) : Abreast server err now w s sc
  | one {w₁ : Worker} (h : w.move server now s = some (w₁, s))
      (h' : w.admitted.move (server.refusing err) now sc = some (w₁.admitted, sc))
      (hrefused : w₁.Refused err) : Abreast server err now w s sc
  | two {w₁ w₂ : Worker} {sc₁ sc₂ : Scene} (h : w.move server now s = some (w₁, s))
      (h' : w.admitted.move (server.refusing err) now sc = some (w₂, sc₁))
      (h'' : w₂.move (server.refusing err) now sc₁ = some (w₁.admitted, sc₂))
      (hrefused : w₁.Refused err) : Abreast server err now w s sc

/-- Where one that was refused reports, one that was let in fetches first. -/
theorem Refused.beginFetch (h : w.Refused err) (w₀ : Worker)
    (hmove : w₀.move server now s = some (w.beginFetch server now s))
    (hmove' : w₀.admitted.move (server.refusing err) now sc =
      some (w.admitted.beginFetch (server.refusing err) now sc)) :
    Abreast server err now w₀ s sc := by
  rw [beginFetch_error h.connection] at hmove
  rw [beginFetch_ok rfl] at hmove'
  let begun := (server.refusing err).begin now sc
  let fetching : Worker := { w.admitted with activity := .fetching begun.1 }
  have hanswer : Move (server.refusing err) now fetching begun.2
      (fetching.report (.error err), begun.2.finish) := .answer rfl (Nat.le_refl _) rfl
  rw [admitted_report] at hanswer
  exact .two hmove hmove' hanswer.move_eq (h.report _)

/-- A worker that was refused is abreast of the worker that was let in. -/
theorem Refused.move (h : w.Refused err) (server : Server) (now : Nat) (s sc : Scene) :
    Abreast server err now w s sc := by
  cases ha : w.activity with
  | receiving =>
    cases ho : w.orders with
    | nil => exact .rest (by simp [Worker.move, ha, ho]) (by simp [Worker.move, admitted, ha, ho])
    | cons order rest =>
      have hrest : .connect ∉ rest := fun hmem => h.orders (by rw [ho]; exact .tail _ hmem)
      cases order with
      | connect => exact absurd (by rw [ho]; exact .head _) h.orders
      | fetch d =>
        by_cases hd : d = 0
        · subst hd
          have htaken : Refused err { w with orders := rest } :=
            h.congr rfl hrest (by simp [ha])
          exact htaken.beginFetch w (Move.fetch ha ho).move_eq
            (Move.fetch (w := w.admitted) ha ho).move_eq
        · refine .one (Move.delay ha ho hd).move_eq
            (Move.delay (w := w.admitted) ha ho hd).move_eq ?_
          exact h.congr rfl hrest (by simp)
  | delaying t =>
    by_cases ht : t ≤ now
    · exact h.beginFetch w (Move.wake ha ht).move_eq (Move.wake (w := w.admitted) ha ht).move_eq
    · exact .rest (by simp [Worker.move, ha, ht]) (by simp [Worker.move, admitted, ha, ht])
  | fetching fetch => exact absurd ha (h.activity fetch)
  | reporting o =>
    by_cases hc : w.replies.length < w.capacity
    · refine .one (Move.reply ha hc).move_eq (Move.reply (w := w.admitted) ha hc).move_eq ?_
      exact h.congr rfl h.orders (by simp)
    · exact .rest (by simp [Worker.move, ha, hc]) (by simp [Worker.move, admitted, ha, hc])
  | gone => exact .rest (by simp [Worker.move, ha]) (by simp [Worker.move, admitted, ha])

/-- What a request comes to does not depend on whether the worker was let in. -/
theorem admitted_moveRequest (w : Worker) (r : Request) :
    w.admitted.moveRequest r =
      match w.moveRequest r with
      | .blocked => .blocked
      | .moved (w₁, r₁) => .moved (w₁.admitted, r₁)
      | .ready o (w₁, r₁) => .ready o (w₁.admitted, r₁)
      | .crashed (w₁, r₁) => .crashed (w₁.admitted, r₁) := by
  have hsame : w.admitted.isGone = w.isGone := rfl
  cases r with
  | sending d =>
    have hroom : (w.admitted.orders.length < w.admitted.capacity) =
      (w.orders.length < w.capacity) := rfl
    simp only [Worker.moveRequest, hsame, hroom]
    split
    · rfl
    · split <;> rfl
  | awaiting =>
    have hreplies : w.admitted.replies = w.replies := rfl
    simp only [Worker.moveRequest, hsame, hreplies]
    split
    · rfl
    · split <;> rfl

/-- A request leaves a worker refused. -/
theorem Refused.moveRequest (h : w.Refused err) (r : Request) :
    w.moveRequest r = .blocked ∨
    (∃ w₁ r₁, w₁.Refused err ∧ w.moveRequest r = .moved (w₁, r₁)) ∨
    ∃ o w₁ r₁, w₁.Refused err ∧ w.moveRequest r = .ready o (w₁, r₁) := by
  cases r with
  | sending d =>
    by_cases hgone : w.isGone = true
    · exact .inr (.inr ⟨.error stopped, w, .sending d, h, by simp [Worker.moveRequest, hgone]⟩)
    · by_cases hroom : w.orders.length < w.capacity
      · have hsent : Refused err { w with orders := w.orders ++ [.fetch d], outstanding := true } :=
          h.congr rfl (by simpa using h.orders) h.activity
        exact .inr (.inl ⟨_, .awaiting, hsent, by simp [Worker.moveRequest, hgone, hroom]⟩)
      · exact .inl (by simp [Worker.moveRequest, hgone, hroom])
  | awaiting =>
    cases hreplies : w.replies with
    | cons o replies =>
      have htaken : Refused err { w with replies := replies, outstanding := false } :=
        h.congr rfl h.orders h.activity
      exact .inr (.inr ⟨o, _, .awaiting, htaken, by simp [Worker.moveRequest, hreplies]⟩)
    | nil =>
      by_cases hgone : w.isGone = true
      · have hleft : Refused err { w with outstanding := false } :=
          h.congr rfl h.orders h.activity
        exact .inr (.inr ⟨.error stopped, _, .awaiting, hleft,
          by simp [Worker.moveRequest, hreplies, hgone]⟩)
      · exact .inl (by simp [Worker.moveRequest, hreplies, hgone])

end Worker

/-- The poll has not begun, or a worker was asked. -/
def Poll.IsRequest : Poll → Prop
  | .fresh _ => True
  | .requesting _ => True
  | .delaying _ => False
  | .fetching _ => False

namespace Poller

/-- A poller whose worker is or will be refused, after so many connection attempts, and the poller
with the worker let in. -/
inductive Posing (err : FetchError) : Nat → Poller → Poller → Prop
  | pending : Posing err 0 .pending .pending
  | hired {w : Worker} {rest : List Order} (horders : w.orders = .connect :: rest)
      (hrest : .connect ∉ rest) (hactivity : w.activity = .receiving) (hreplies : w.replies = []) :
      Posing err 0 (.running w) (.running w)
  | refused {w : Worker} (h : w.Refused err) : Posing err 1 (.running w) (.running w.admitted)

/-- The steps of the two polls: neither can take one, or both go on, or both have the same outcome,
and that after a connection attempt. -/
inductive Paired (err : FetchError) (n : Nat) (s sc : Scene) :
    Motion Outcome State → Motion Outcome State → Prop
  | blocked : Paired err n s sc .blocked .blocked
  | moved {p p' : Poller} {poll : Poll} (h : Posing err n p p') (hpoll : poll.IsRequest) :
      Paired err n s sc (.moved (p, poll, s)) (.moved (p', poll, sc))
  | ready {p p' : Poller} {poll : Poll} {o : Outcome} (h : Posing err n p p')
      (hpoll : poll.IsRequest) (hn : n = 1) :
      Paired err n s sc (.ready o (p, poll, s)) (.ready o (p', poll, sc))

variable {n : Nat} {p p' : Poller} {poll : Poll} {capacity : Nat}

theorem Posing.move_hired {w : Worker} {rest : List Order} (horders : w.orders = .connect :: rest)
    (hrest : .connect ∉ rest) (hactivity : w.activity = .receiving) (hreplies : w.replies = [])
    (hpoll : poll.IsRequest) :
    Paired err 0 s sc (move server capacity now (.running w, poll, s))
      (move (server.refusing err) capacity now (.running w, poll, sc)) := by
  have hthere : w.isGone = false := by simp [Worker.isGone, hactivity]
  cases poll with
  | delaying | fetching => cases hpoll
  | fresh d => exact .moved (.hired horders hrest hactivity hreplies) trivial
  | requesting r =>
    cases r with
    | awaiting =>
      simp only [move, Worker.moveRequest, hreplies, hthere]
      exact .blocked
    | sending d =>
      by_cases hroom : w.orders.length < w.capacity
      · simp only [move, Worker.moveRequest, hthere, hroom]
        have hsent : w.orders ++ [.fetch d] = .connect :: (rest ++ [.fetch d]) := by simp [horders]
        exact .moved (.hired hsent (by simpa using hrest) hactivity hreplies) trivial
      · simp only [move, Worker.moveRequest, hthere, hroom]
        exact .blocked

theorem Posing.move_refused {w : Worker} (h : w.Refused err) (hpoll : poll.IsRequest) :
    Paired err 1 s sc (move server capacity now (.running w, poll, s))
      (move (server.refusing err) capacity now (.running w.admitted, poll, sc)) := by
  cases poll with
  | delaying | fetching => cases hpoll
  | fresh d => exact .moved (.refused h) trivial
  | requesting r =>
    simp only [move, Worker.admitted_moveRequest]
    rcases h.moveRequest r with hm | ⟨w₁, r₁, hw₁, hm⟩ | ⟨o, w₁, r₁, hw₁, hm⟩
    · simp only [hm]
      exact .blocked
    · simp only [hm]
      exact .moved (.refused hw₁) (show (Poll.requesting r₁).IsRequest from trivial)
    · simp only [hm]
      exact .ready (.refused hw₁) (show (Poll.requesting r₁).IsRequest from trivial) rfl

/-- Two such pollers have their polls keep abreast, and no poll breaks off. -/
theorem Posing.move (h : Posing err n p p') (hpoll : poll.IsRequest) (server : Server) (now : Nat)
    (s sc : Scene) (hpos : 0 < capacity) (hle : capacity ≤ Worker.capacityLimit) :
    Paired err n s sc (Poller.move server capacity now (p, poll, s))
      (Poller.move (server.refusing err) capacity now (p', poll, sc)) := by
  cases h with
  | hired horders hrest hactivity hreplies =>
    exact move_hired horders hrest hactivity hreplies hpoll
  | refused h => exact move_refused h hpoll
  | pending =>
    cases poll with
    | delaying | fetching => cases hpoll
    | requesting => exact .blocked
    | fresh d =>
      simp only [Poller.move, start, spawn, Worker.spawn_fitting hpos hle]
      exact .moved (.hired rfl nofun rfl rfl) trivial

/-! ## The steps of the workers -/

/-- The steps of the two workers: none, the attempt to connect, one step each, or one step of the
worker that was refused and two of the one that was let in. -/
inductive Alongside (server : Server) (err : FetchError) (now n : Nat) (s sc : Scene)
    (p p' : Poller) : Prop
  | rest (h : p.moveWorker server now s = none)
      (h' : p'.moveWorker (server.refusing err) now sc = none) :
      Alongside server err now n s sc p p'
  | connect {p₁ p₁' : Poller} (hn : n = 0)
      (h : p.moveWorker server now s = some (p₁, (server.connect s).2))
      (h' : p'.moveWorker (server.refusing err) now sc = some (p₁', sc))
      (hposing : Posing err 1 p₁ p₁') : Alongside server err now n s sc p p'
  | one {p₁ p₁' : Poller} (h : p.moveWorker server now s = some (p₁, s))
      (h' : p'.moveWorker (server.refusing err) now sc = some (p₁', sc))
      (hposing : Posing err n p₁ p₁') : Alongside server err now n s sc p p'
  | two {p₁ p₁' p₂ : Poller} {sc₁ sc₂ : Scene} (h : p.moveWorker server now s = some (p₁, s))
      (h' : p'.moveWorker (server.refusing err) now sc = some (p₂, sc₁))
      (h'' : p₂.moveWorker (server.refusing err) now sc₁ = some (p₁', sc₂))
      (hposing : Posing err n p₁ p₁') : Alongside server err now n s sc p p'

/-- The workers of two such pollers keep abreast. -/
theorem Posing.moveWorker (h : Posing err n p p') (now : Nat) (sc : Scene)
    (hconnect : n = 0 → (server.connect s).1 = .error err) :
    Alongside server err now n s sc p p' := by
  cases h with
  | pending => exact .rest rfl rfl
  | @hired w rest horders hrest hactivity hreplies =>
    have hmove : w.move server now s =
        some ({ w with orders := rest, connection := .error err }, (server.connect s).2) := by
      rw [(Worker.Move.connect hactivity horders).move_eq, hconnect rfl]
    have hmove' : w.move (server.refusing err) now sc =
        some ({ w with orders := rest, connection := .ok () }, sc) :=
      (Worker.Move.connect hactivity horders).move_eq
    have hrefused : Worker.Refused err { w with orders := rest, connection := .error err } :=
      ⟨rfl, hrest, by simp [hactivity]⟩
    refine .connect rfl ?_ ?_ (.refused hrefused)
    · exact congrArg (Option.map _) hmove
    · exact congrArg (Option.map _) hmove'
  | @refused w h =>
    cases h.move server now s sc with
    | rest hm hm' => exact .rest (congrArg (Option.map _) hm) (congrArg (Option.map _) hm')
    | one hm hm' hrefused =>
      exact .one (congrArg (Option.map _) hm) (congrArg (Option.map _) hm') (.refused hrefused)
    | two hm hm' hm'' hrefused =>
      exact .two (congrArg (Option.map _) hm) (congrArg (Option.map _) hm')
        (congrArg (Option.map _) hm'') (.refused hrefused)

/-- Their workers wait for the same time. -/
theorem Posing.workerWake?_eq (h : Posing err n p p') : p'.workerWake? = p.workerWake? := by
  cases h <;> rfl

theorem Posing.stop_eq (h : Posing err n p p') : p.stop = .stopped ∧ p'.stop = .stopped := by
  cases h <;> exact ⟨rfl, rfl⟩

end Poller

end RemoteConsole
