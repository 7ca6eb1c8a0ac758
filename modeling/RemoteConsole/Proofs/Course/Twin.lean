import RemoteConsole.Proofs.Client.Start
import RemoteConsole.Proofs.Schedule.Next
import RemoteConsole.Proofs.Stream.Patience

/-!
# A client and its twin

The twin of a client has another server: its fetches come to something else. A stream that fetches
by itself asks the server for nothing but the fetch that it begins, so both clients do the same
until they begin a fetch that the servers serve in different ways.

* `Client.withCall`: the twin.
* `Poll.Begins`: the next step of a poll is the beginning of its fetch.
* `Schedule.next_withCall`: what comes next is the same for both, or is such a beginning.
-/

namespace RemoteConsole

/-- The server with other fetches. -/
def Server.withCall (server : Server) (call : Nat → Call) : Server := { server with call := call }

/-- The plan with other fetches. -/
def Plan.withCall (plan : Plan) (call : Nat → Call) : Plan :=
  { plan with server := plan.server.withCall call }

/-- The client with other fetches. -/
def Client.withCall (c : Client) (call : Nat → Call) : Client :=
  { c with server := c.server.withCall call }

theorem Client.plan_withCall (c : Client) (call : Nat → Call) :
    (c.withCall call).plan = c.plan.withCall call := rfl

/-- The next step of the poll is the beginning of its fetch. -/
def Poll.Begins (now : Nat) : Poll → Prop
  | .fresh delay => delay = 0
  | .delaying wake => wake ≤ now
  | .fetching _ => False
  | .requesting _ => False

variable {plan : Plan} {call : Nat → Call} {s : Stream} {σ : Schedule}

/-! ## Polls -/

namespace Poller

variable {server : Server} {capacity now : Nat} {poll : Poll} {scene : Scene}

theorem move_of_begins (h : poll.Begins now) :
    move server capacity now (.direct, poll, scene) =
      .moved (beginFetch server now .direct scene) := by
  cases poll with
  | fresh delay =>
    obtain rfl : delay = 0 := h
    rfl
  | delaying wake => exact if_pos h
  | fetching | requesting => cases h

/-- A fetch that is the same for both begins alike. -/
theorem beginFetch_withCall (h : call scene.calls = server.call scene.calls) :
    beginFetch (server.withCall call) now .direct scene = beginFetch server now .direct scene := by
  unfold beginFetch Server.begin Server.withCall
  dsimp only
  rw [h]

/-- Nothing but the beginning of a fetch depends on what it comes to. -/
theorem move_withCall (capacity : Nat)
    (h : poll.Begins now → call scene.calls = server.call scene.calls) :
    move (server.withCall call) capacity now (.direct, poll, scene) =
      move server capacity now (.direct, poll, scene) := by
  by_cases hbegins : poll.Begins now
  · rw [move_of_begins hbegins, move_of_begins hbegins, beginFetch_withCall (h hbegins)]
  · cases poll with
    | fresh delay =>
      have hne : ¬ delay = 0 := hbegins
      exact congrArg Motion.moved ((if_neg hne).trans (if_neg hne).symm)
    | delaying wake =>
      have hlt : ¬ wake ≤ now := hbegins
      exact (if_neg hlt).trans (if_neg hlt).symm
    | fetching | requesting => rfl

/-- A poll that goes on without a worker asks for a fetch only where one begins. -/
theorem Move.begins {m : Motion Outcome State} {r : State}
    (h : Move server capacity now scene .direct poll m) (hm : after? m = some r)
    (hcalls : r.2.2.calls ≠ scene.calls) : poll.Begins now := by
  cases h with
  | fetch => exact rfl
  | wake ht => exact ht
  | delay | answer | panic => cases hm; exact absurd rfl hcalls

end Poller

/-! ## Streams -/

namespace Stream

/-- A driver that asks for a fetch was at the beginning of one. -/
theorem DriverMove.begins {s' : Stream} (h : DriverMove plan s s') (hdirect : s.poller = .direct)
    (hcalls : s'.scene.calls ≠ s.scene.calls) :
    ∃ poll, s.stage = .waiting poll ∧ poll.Begins s.now := by
  rcases h.poller_cases with ⟨-, hsame, -⟩ | ⟨poll, m, r, hstage, hmove, hafter, -, hscene⟩
  · exact absurd hsame hcalls
  · rw [hdirect] at hmove
    rw [hscene] at hcalls
    exact ⟨poll, hstage, hmove.begins hafter hcalls⟩

/-- The stream does not begin a fetch that is not the same for both. -/
def Agrees (plan : Plan) (call : Nat → Call) (s : Stream) : Prop :=
  ∀ poll, s.stage = .waiting poll → poll.Begins s.now →
    call s.scene.calls = plan.server.call s.scene.calls

theorem moveDriver_withCall (hdirect : s.poller = .direct) (h : s.Agrees plan call) :
    s.moveDriver (plan.withCall call) = s.moveDriver plan := by
  unfold moveDriver
  cases hstage : s.stage with
  | waiting poll =>
    have hmove := Poller.move_withCall plan.workerCapacity (h poll hstage)
    dsimp only
    unfold await
    rw [hdirect, ← hmove]
    rfl
  | executing command => cases command <;> rfl
  | starting | leaving | finished | crashed => rfl

/-- A stream that fetches by itself has no worker. -/
theorem moveWorker_direct (hdirect : s.poller = .direct) : s.moveWorker plan = none := by
  unfold moveWorker
  rw [hdirect]
  rfl

theorem moveWorker_withCall (hdirect : s.poller = .direct) :
    s.moveWorker (plan.withCall call) = s.moveWorker plan :=
  (moveWorker_direct hdirect).trans (moveWorker_direct hdirect).symm

/-- The driver of a stream that begins a fetch. -/
theorem moveDriver_of_begins (hdirect : s.poller = .direct) (hopen : s.closeWanted = false)
    {poll : Poll} (hstage : s.stage = .waiting poll) (h : poll.Begins s.now) :
    s.moveDriver plan =
      some (s.withPoll (Poller.beginFetch plan.server s.now .direct s.scene)) := by
  refine (DriverMove.poll hstage hopen ?_).move_eq
  rw [hdirect]
  exact Poller.move_of_begins h

/-- A stream that begins a fetch that is not the same for both. -/
theorem exists_begins (h : ¬ s.Agrees plan call) :
    ∃ poll, s.stage = .waiting poll ∧ poll.Begins s.now ∧
      call s.scene.calls ≠ plan.server.call s.scene.calls := by
  unfold Agrees at h
  push Not at h
  exact h

/-- Whether a task can move does not depend on what fetches come to. -/
theorem canMove_withCall (hdirect : s.poller = .direct) (hopen : s.closeWanted = false) (t : Task) :
    s.canMove (plan.withCall call) t = s.canMove plan t := by
  unfold canMove move
  cases t with
  | worker => exact congrArg Option.isSome (moveWorker_withCall hdirect)
  | driver =>
    by_cases h : s.Agrees plan call
    · exact congrArg Option.isSome (moveDriver_withCall hdirect h)
    · obtain ⟨poll, hstage, hbegins, -⟩ := exists_begins h
      dsimp only
      rw [moveDriver_of_begins hdirect hopen hstage hbegins,
        moveDriver_of_begins hdirect hopen hstage hbegins]
      rfl

end Stream

/-! ## Schedules -/

namespace Schedule

theorem enqueue_withCall (hdirect : s.poller = .direct) (hopen : s.closeWanted = false)
    (queue : List Task) (t : Task) :
    enqueue (plan.withCall call) ⟨s, queue⟩ t = enqueue plan ⟨s, queue⟩ t := by
  unfold enqueue
  dsimp only
  rw [Stream.canMove_withCall hdirect hopen]

theorem ofStream_withCall (hdirect : s.poller = .direct) (hopen : s.closeWanted = false) :
    ofStream (plan.withCall call) s = ofStream plan s := by
  rw [ofStream_eq, ofStream_eq, Stream.canMove_withCall hdirect hopen,
    Stream.canMove_withCall hdirect hopen]

theorem step_withCall (hdirect : σ.stream.poller = .direct)
    (hopen : σ.stream.closeWanted = false)
    (h : σ.queue.head? = some .driver → σ.stream.Agrees plan call) :
    σ.step (plan.withCall call) = σ.step plan := by
  unfold step
  cases hqueue : σ.queue with
  | nil => rfl
  | cons t rest =>
    rw [hqueue] at h
    have hmove : σ.stream.move (plan.withCall call) t = σ.stream.move plan t := by
      cases t with
      | driver => exact Stream.moveDriver_withCall hdirect (h rfl)
      | worker => exact Stream.moveWorker_withCall hdirect
    dsimp only
    rw [hmove]
    cases σ.stream.move plan t with
    | some s => rfl
    | none =>
      refine congrArg some (enqueue_withCall ?_ ?_ rest t.other)
      · exact hdirect
      · exact hopen

theorem next_withCall (hdirect : σ.stream.poller = .direct)
    (hopen : σ.stream.closeWanted = false)
    (h : σ.queue.head? = some .driver → σ.stream.Agrees plan call) :
    σ.next (plan.withCall call) = σ.next plan := by
  unfold next
  rw [step_withCall hdirect hopen h]
  cases σ.step plan with
  | some σ' => rfl
  | none =>
    dsimp only
    split
    · rfl
    · cases σ.stream.wake? with
      | none => rfl
      | some t =>
        refine ofStream_withCall ?_ ?_
        · exact hdirect
        · exact hopen

theorem queued_withCall (hdirect : σ.stream.poller = .direct)
    (hopen : σ.stream.closeWanted = false) (h : Queued (plan.withCall call) σ) :
    Queued plan σ := by
  cases h with
  | none h => exact .none fun t => (Stream.canMove_withCall hdirect hopen t).symm.trans (h t)
  | one t => exact .one t
  | two t => exact .two t

/-- A fetch that begins next is the same for both if the stream agrees on it. -/
theorem call_eq_of_begins (hdirect : σ.stream.poller = .direct)
    (h : σ.queue.head? = some .driver → σ.stream.Agrees plan call)
    (hcalls : (σ.next plan).stream.scene.calls ≠ σ.stream.scene.calls) :
    call σ.stream.scene.calls = plan.server.call σ.stream.scene.calls := by
  unfold next at hcalls
  split at hcalls
  · next σ' hstep =>
    obtain ⟨t, rest, hqueue, ⟨s, hm, rfl⟩ | ⟨hm, rfl⟩⟩ := step_turn hstep
    · cases t with
      | worker => cases (Stream.moveWorker_direct hdirect).symm.trans hm
      | driver =>
        obtain ⟨poll, hstage, hbegins⟩ :=
          (Stream.DriverMove.of_move hm).begins hdirect hcalls
        exact h (by rw [hqueue]; rfl) poll hstage hbegins
    · rw [enqueue_stream] at hcalls
      exact absurd rfl hcalls
  · split at hcalls
    · exact absurd rfl hcalls
    · split at hcalls
      · rw [ofStream_stream] at hcalls
        exact absurd rfl hcalls
      · exact absurd rfl hcalls

theorem step_of_begins (plan : Plan) (hdirect : σ.stream.poller = .direct)
    (hopen : σ.stream.closeWanted = false) (hhead : σ.queue.head? = some .driver) {poll : Poll}
    (hstage : σ.stream.stage = .waiting poll) (hbegins : poll.Begins σ.stream.now) :
    σ.step plan = some ⟨σ.stream.withPoll
      (Poller.beginFetch plan.server σ.stream.now .direct σ.stream.scene), σ.queue⟩ := by
  obtain ⟨rest, hqueue⟩ := List.head?_eq_some_iff.mp hhead
  unfold step
  rw [hqueue]
  dsimp only [Stream.move]
  rw [Stream.moveDriver_of_begins hdirect hopen hstage hbegins]

/-- What comes next is the same for both, and so is the fetch that may begin; or it is the beginning
of a fetch that is not. -/
theorem next_cases (plan : Plan) (call : Nat → Call) (hdirect : σ.stream.poller = .direct)
    (hopen : σ.stream.closeWanted = false) :
    (σ.next (plan.withCall call) = σ.next plan ∧
      ((σ.next plan).stream.scene.calls ≠ σ.stream.scene.calls →
        call σ.stream.scene.calls = plan.server.call σ.stream.scene.calls)) ∨
      σ.queue.head? = some .driver ∧ ∃ poll, σ.stream.stage = .waiting poll ∧
        poll.Begins σ.stream.now ∧
        call σ.stream.scene.calls ≠ plan.server.call σ.stream.scene.calls := by
  by_cases h : σ.queue.head? = some .driver → σ.stream.Agrees plan call
  · exact .inl ⟨next_withCall hdirect hopen h, call_eq_of_begins hdirect h⟩
  · obtain ⟨hhead, hdiffers⟩ := Classical.not_imp.mp h
    exact .inr ⟨hhead, Stream.exists_begins hdiffers⟩

end Schedule

end RemoteConsole
