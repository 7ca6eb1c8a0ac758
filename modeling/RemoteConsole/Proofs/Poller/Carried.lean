import RemoteConsole.Proofs.Poller.Moves
import RemoteConsole.Proofs.Worker.Moves

/-!
# What is on its way

* `Server.brought n`: what the first `n` fetches bring, apart from those that fail or break off.
* `Worker.carried`, `Poll.carried`, `Poller.carried`: what was fetched, or is being fetched, and has
  not been handed on.
* `Poller.Fits`: a poll does not fetch by itself while there is a worker.
* `Worker.carried_move`, `Poller.carried_moveWorker`, `carried_move_moved`, `carried_move_ready`: a
  step loses nothing and changes no order. It adds at the end what the next fetch brings, or takes
  away the first thing by handing it on.

They hold of every server, also of one whose fetches break off.
-/

namespace RemoteConsole

/-- What a reply brings. -/
def Reply.brought? : Reply → Option (Option Chunk)
  | .answer outcome => outcome.toOption
  | .hang => none
  | .panic => none

/-- What the first `n` fetches bring, in order. -/
def Server.brought (server : Server) (n : Nat) : List (Option Chunk) :=
  (List.range n).filterMap fun i => (server.call i).reply.brought?

/-- What a worker has fetched or is fetching. -/
def Worker.carried (w : Worker) : List (Option Chunk) :=
  w.replies.filterMap Except.toOption ++
    match w.activity with
    | .fetching fetch => fetch.reply.brought?.toList
    | .reporting outcome => outcome.toOption.toList
    | .receiving => []
    | .delaying _ => []
    | .gone => []

/-- What a poll is fetching by itself. -/
def Poll.carried : Poll → List (Option Chunk)
  | .fetching fetch => fetch.reply.brought?.toList
  | .fresh _ => []
  | .delaying _ => []
  | .requesting _ => []

/-- What the worker of a poller carries. -/
def Poller.carried : Poller → List (Option Chunk)
  | .running w => w.carried
  | .direct => []
  | .pending => []
  | .fallback => []
  | .stopped => []

/-- With a worker, a poll does not wait for its own fetch. -/
def Poller.Fits : Poller → Poll → Prop
  | .running _, .delaying _ => False
  | .running _, .fetching _ => False
  | _, _ => True

variable {server : Server} {now : Nat} {s s' : Scene}

theorem Server.brought_succ (server : Server) (n : Nat) :
    server.brought (n + 1) = server.brought n ++ (server.call n).reply.brought?.toList := by
  unfold brought
  rw [List.range_succ, List.filterMap_append]
  simp only [List.filterMap_cons, List.filterMap_nil]
  cases (server.call n).reply.brought? <;> rfl

/-- What a step adds to what is carried is what the fetches bring that begin by it. -/
def Scene.Adds (server : Server) (s s' : Scene) (new : List (Option Chunk)) : Prop :=
  server.brought s'.calls = server.brought s.calls ++ new

namespace Scene

theorem adds_nil (h : s'.calls = s.calls) : Adds server s s' [] := by
  unfold Adds; rw [h, List.append_nil]

theorem adds_begin :
    Adds server s (server.begin now s).2 (server.begin now s).1.reply.brought?.toList :=
  server.brought_succ s.calls

end Scene

/-! ## Workers -/

namespace Worker

variable {w w' : Worker}

/-- A worker that reports passes on what it had fetched, even if it breaks off by it. -/
theorem carried_report (w : Worker) (o : Outcome) :
    (w.report o).carried = w.replies.filterMap Except.toOption ++ o.toOption.toList := by
  unfold report
  cases o with
  | ok chunk => rfl
  | error e => dsimp only; split <;> rfl

theorem carried_beginFetch (server : Server) (now : Nat) (s : Scene)
    (h : w.carried = w.replies.filterMap Except.toOption) :
    ∃ new, (w.beginFetch server now s).1.carried = w.carried ++ new ∧
      Scene.Adds server s (w.beginFetch server now s).2 new ∧
      (w.beginFetch server now s).2.outlet.content = s.outlet.content := by
  cases hc : w.connection with
  | ok =>
    rw [beginFetch_ok hc, h]
    exact ⟨_, rfl, Scene.adds_begin, rfl⟩
  | error e =>
    rw [beginFetch_error hc, h, carried_report]
    exact ⟨[], rfl, Scene.adds_nil rfl, rfl⟩

/-- A step of a worker keeps what it carries, and adds what it begins to fetch. -/
theorem carried_move (hm : w.move server now s = some (w', s')) :
    ∃ new, w'.carried = w.carried ++ new ∧ Scene.Adds server s s' new ∧
      s'.outlet.content = s.outlet.content := by
  generalize hr : (w', s') = r at hm
  replace hm := Move.of_move hm
  cases hm with
  | connect ha ho =>
    cases hr
    refine ⟨[], ?_, Scene.adds_nil (server.connect_calls s), server.connect_content s⟩
    unfold carried
    simp only [ha, List.append_nil]
  | @fetch rest ha ho =>
    have hcarried : w.carried = w.replies.filterMap Except.toOption := by
      unfold carried; rw [ha]; exact List.append_nil _
    have hsame : ({ w with orders := rest } : Worker).carried = w.carried := rfl
    have h := carried_beginFetch server now s (w := { w with orders := rest }) hcarried
    rw [← hr, hsame] at h
    exact h
  | delay ha ho hd =>
    cases hr
    refine ⟨[], ?_, Scene.adds_nil rfl, rfl⟩
    unfold carried
    simp only [ha, List.append_nil]
  | wake ha ht =>
    have hcarried : w.carried = w.replies.filterMap Except.toOption := by
      unfold carried; rw [ha]; exact List.append_nil _
    have h := carried_beginFetch server now s hcarried
    rw [← hr] at h
    exact h
  | answer ha hd hreply =>
    cases hr
    refine ⟨[], ?_, Scene.adds_nil rfl, rfl⟩
    rw [carried_report, List.append_nil]
    unfold carried
    simp only [ha, hreply, Reply.brought?]
  | panic ha hd hreply =>
    cases hr
    refine ⟨[], ?_, Scene.adds_nil rfl, rfl⟩
    unfold carried
    simp only [ha, hreply, Reply.brought?, Option.toList, List.append_nil]
  | @reply o ha hc =>
    cases hr
    refine ⟨[], ?_, Scene.adds_nil rfl, rfl⟩
    unfold carried
    simp only [ha, List.filterMap_append, List.append_nil]
    cases o <;> rfl

/-- A request that goes on carries nothing. -/
theorem carried_request_moved {r r' : Request} (hm : w.moveRequest r = .moved (w', r')) :
    w'.carried = w.carried := by
  obtain ⟨hreplies, hactivity, -⟩ := of_moveRequest_moved hm
  unfold carried
  rw [hreplies, hactivity]

/-- A request that has its answer takes away the first thing that is carried. -/
theorem carried_request_ready {r r' : Request} {o : Outcome}
    (hm : w.moveRequest r = .ready o (w', r')) :
    w.carried = o.toOption.toList ++ w'.carried := by
  cases RequestMove.of_move hm nofun with
  | unsent | unanswered => rfl
  | reply hreplies =>
    unfold carried
    rw [hreplies]
    cases o <;> rfl

end Worker

/-! ## Pollers -/

namespace Poller

variable {capacity : Nat} {p p' : Poller} {poll poll' : Poll} {o : Outcome}

theorem carried_moveWorker (hm : p.moveWorker server now s = some (p', s')) :
    ∃ new, p'.carried = p.carried ++ new ∧ Scene.Adds server s s' new ∧
      s'.outlet.content = s.outlet.content := by
  cases p with
  | running w =>
    obtain ⟨⟨w', s''⟩, hw, heq⟩ := Option.map_eq_some_iff.mp hm
    cases heq
    exact Worker.carried_move hw
  | direct | pending | fallback | stopped => cases hm

theorem fits_moveWorker (hm : p.moveWorker server now s = some (p', s')) (h : p.Fits poll) :
    p'.Fits poll := by
  cases p with
  | running w =>
    obtain ⟨⟨w', s''⟩, hw, heq⟩ := Option.map_eq_some_iff.mp hm
    cases heq
    cases poll with
    | fresh | requesting => trivial
    | delaying | fetching => exact absurd h id
  | direct | pending | fallback | stopped => cases hm

/-- What a poll that goes on keeps and adds. -/
def Extends (server : Server) : State → State → Prop
  | (p, poll, s), (p', poll', s') =>
    p'.Fits poll' ∧ s'.outlet.content = s.outlet.content ∧
      ∃ new, p'.carried ++ poll'.carried = p.carried ++ poll.carried ++ new ∧
        Scene.Adds server s s' new

theorem extends_beginFetch (hp : p.carried = []) (hpoll : poll.carried = [])
    (hfits : ∀ fetch, p.Fits (.fetching fetch)) :
    Extends server (p, poll, s) (beginFetch server now p s) := by
  refine ⟨hfits _, rfl, (server.begin now s).1.reply.brought?.toList, ?_, Scene.adds_begin⟩
  rw [hp, hpoll]
  rfl

theorem FetchesItself.carried_eq (h : p.FetchesItself) : p.carried = [] := by
  rcases h with rfl | rfl <;> rfl

theorem FetchesItself.fits (h : p.FetchesItself) (poll : Poll) : p.Fits poll := by
  rcases h with rfl | rfl <;> trivial

/-- A poll that waits for its own delay or fetch belongs to a poller that carries nothing. -/
theorem Fits.carried_eq (h : p.Fits poll) (hpoll : ∀ d, poll ≠ .fresh d)
    (hrequest : ∀ r, poll ≠ .requesting r) : p.carried = [] ∧ ∀ poll', p.Fits poll' := by
  cases p with
  | running w =>
    cases poll with
    | fresh d => exact absurd rfl (hpoll d)
    | requesting r => exact absurd rfl (hrequest r)
    | delaying | fetching => exact absurd h id
  | direct | pending | fallback | stopped => exact ⟨rfl, fun _ => trivial⟩

/-- A poll that goes on loses nothing. -/
theorem carried_move_moved {r : State} (hfits : p.Fits poll)
    (hm : move server capacity now (p, poll, s) = .moved r) : Extends server (p, poll, s) r := by
  cases Move.of_move hm (fun hb => by cases hb) with
  | fetch hp => exact extends_beginFetch hp.carried_eq rfl fun _ => hp.fits _
  | delay hp hd => exact ⟨hp.fits _, rfl, [], (List.append_nil _).symm, Scene.adds_nil rfl⟩
  | hire => exact ⟨trivial, rfl, [], rfl, Scene.adds_nil rfl⟩
  | fallBack =>
    exact ⟨trivial, server.connect_content s, [], rfl, Scene.adds_nil (server.connect_calls s)⟩
  | request => exact ⟨trivial, rfl, [], (List.append_nil _).symm, Scene.adds_nil rfl⟩
  | wake =>
    obtain ⟨hp, hall⟩ := hfits.carried_eq (fun _ h => by cases h) fun _ h => by cases h
    exact extends_beginFetch hp rfl fun _ => hall _
  | @send w w' r r' hsend =>
    refine ⟨trivial, rfl, [], ?_, Scene.adds_nil rfl⟩
    show w'.carried ++ [] = w.carried ++ [] ++ []
    rw [Worker.carried_request_moved hsend, List.append_nil, List.append_nil]

/-- A poll that has its outcome hands on the first thing that is carried. -/
theorem carried_move_ready (hfits : p.Fits poll)
    (hm : move server capacity now (p, poll, s) = .ready o (p', poll', s')) :
    p.carried ++ poll.carried = o.toOption.toList ++ p'.carried ∧ s'.calls = s.calls ∧
      s'.outlet.content = s.outlet.content := by
  cases Move.of_move hm (fun hb => by cases hb) with
  | unconnected => exact ⟨rfl, server.connect_calls s, server.connect_content s⟩
  | shutDown => exact ⟨rfl, rfl, rfl⟩
  | answer hd hr =>
    obtain ⟨hp, -⟩ := hfits.carried_eq (fun _ h => by cases h) fun _ h => by cases h
    refine ⟨?_, rfl, rfl⟩
    simp only [hp, Poll.carried, hr, Reply.brought?, List.nil_append, List.append_nil]
  | @receive w w' r r' _ hready =>
    refine ⟨?_, rfl, rfl⟩
    show w.carried ++ [] = _ ++ w'.carried
    rw [List.append_nil, Worker.carried_request_ready hready]

/-- A poll that breaks off changes nothing that was converted or shown. -/
theorem move_crashed (hm : move server capacity now (p, poll, s) = .crashed (p', poll', s')) :
    s' = s := by
  cases Move.of_move hm (fun hb => by cases hb) with
  | unspawned => rfl
  | panic => rfl

end Poller

end RemoteConsole
