import Mathlib.Logic.Relation
import RemoteConsole.Proofs.Worker.Duty

/-!
# A worker and its caller

* `Exchange`: a worker and someone who makes requests of it, with a count of the orders put into the
  channel and of the replies taken from it.
* `Exchange.Step`: the worker takes a step, time passes, or the caller begins a request, goes on
  with it, gives it up at any point, or has its answer.
* `Exchange.Sound`: the invariant: the request that is held fits the duty of the worker.
* `at_most_one_outstanding`: in every order of these steps there is at most one reply to come, and
  the answers are the outcomes of the fetches, in order and with none left out.

A request that is given up leaves its order with the worker, and the next one takes the reply.
-/

namespace RemoteConsole

/-- A worker, the request that its caller waits for, and what has gone between them. -/
structure Exchange where
  now : Nat
  worker : Worker
  scene : Scene
  request : Option Request
  sent : Nat
  taken : Nat
  answers : List Outcome

/-- The outcomes that a worker has fetched and that were not taken from it. -/
def Worker.unread (w : Worker) : List Outcome :=
  w.replies ++
    match w.activity with
    | .reporting o => [o]
    | .receiving => []
    | .delaying _ => []
    | .fetching _ => []
    | .gone => []

namespace Exchange

/-- A worker that was just hired, and a caller that has not made a request. -/
def start (capacity : Nat) : Exchange where
  now := 0
  worker := .spawned capacity
  scene := .empty
  request := none
  sent := 0
  taken := 0
  answers := []

/-- The steps of a worker and its caller, in any order. A request can be given up at any point. -/
inductive Step (server : Server) : Exchange → Exchange → Prop
  | work {e : Exchange} {w : Worker} {s : Scene}
      (h : e.worker.move server e.now e.scene = some (w, s)) :
      Step server e { e with worker := w, scene := s }
  | time {e : Exchange} (t : Nat) : Step server e { e with now := max e.now t }
  | call {e : Exchange} (d : Nat) (h : e.request = none) :
      Step server e { e with request := some (e.worker.request d) }
  | drop {e : Exchange} : Step server e { e with request := none }
  | send {e : Exchange} {r r' : Request} {w : Worker} (h : e.request = some r)
      (hm : e.worker.moveRequest r = .moved (w, r')) :
      Step server e { e with
        worker := w
        request := some r'
        sent := e.sent + (w.orders.length - e.worker.orders.length) }
  | answer {e : Exchange} {r r' : Request} {w : Worker} {o : Outcome} (h : e.request = some r)
      (hm : e.worker.moveRequest r = .ready o (w, r')) :
      Step server e { e with
        worker := w
        request := none
        taken := e.taken + (e.worker.replies.length - w.replies.length)
        answers := e.answers ++ [o] }

/-- The exchanges that the steps lead to. -/
abbrev Reach (server : Server) : Exchange → Exchange → Prop := Relation.ReflTransGen (Step server)

/-- A request has sent its order if and only if a reply is to come. -/
def Suits (duty : Duty) : Option Request → Prop
  | none => True
  | some (.sending _) => duty = .idle
  | some .awaiting => duty ≠ .idle

/-- The invariant of an exchange. -/
structure Sound (server : Server) (feed : Feed) (duty : Duty) (e : Exchange) : Prop where
  does : Worker.Does server feed e.answers.length e.scene duty e.worker
  request : Suits duty e.request
  sent : e.sent = e.taken + if duty = .idle then 0 else 1
  inFlight : e.scene.inFlight = duty.inFlight
  answers : e.answers = (List.range e.answers.length).map feed.answer

variable {server : Server} {feed : Feed} {duty : Duty} {e e' : Exchange}

theorem sound_start (capacity : Nat) (hc : (server.connect .empty).1 = .ok ()) :
    Sound server feed .idle (start capacity) where
  does := Worker.does_spawned capacity rfl hc
  request := trivial
  sent := rfl
  inFlight := rfl
  answers := rfl

/-! ## What each step does -/

theorem suits_request {n : Nat} {s : Scene} {w : Worker} (h : Worker.Does server feed n s duty w)
    (d : Nat) : Suits duty (some (w.request d)) := by
  have hout := h.outstanding_iff
  unfold Worker.request
  split
  · next ho => exact hout.mp ho
  · next ho => exact Classical.not_not.mp fun hne => ho (hout.mpr hne)

/-- A request that goes on puts its order into the channel. -/
theorem does_send {n : Nat} {s : Scene} {w w' : Worker} {r r' : Request}
    (h : Worker.Does server feed n s duty w) (hr : Suits duty (some r))
    (hm : w.moveRequest r = .moved (w', r')) :
    duty = .idle ∧ r' = .awaiting ∧ w'.orders.length = w.orders.length + 1 ∧
      ∃ d, Worker.Does server feed n s (.ordered d) w' := by
  cases r with
  | sending d =>
    cases hr
    rcases Worker.does_moveRequest_sending d h with ⟨_, hmove, hdoes, -, hlen, -⟩ | ⟨hblocked, -⟩
    · cases hmove.symm.trans hm
      exact ⟨rfl, rfl, hlen, d, hdoes⟩
    · cases hblocked.symm.trans hm
  | awaiting =>
    rcases Worker.does_moveRequest_awaiting hr h with ⟨_, hready, -⟩ | ⟨hblocked, -⟩
    · cases hready.symm.trans hm
    · cases hblocked.symm.trans hm

/-- A request that is answered takes the outcome of the next fetch. -/
theorem does_answer {n : Nat} {s : Scene} {w w' : Worker} {r r' : Request} {o : Outcome}
    (h : Worker.Does server feed n s duty w) (hr : Suits duty (some r))
    (hm : w.moveRequest r = .ready o (w', r')) :
    duty = .answered ∧ o = feed.answer n ∧ w.replies.length = w'.replies.length + 1 ∧
      Worker.Does server feed (n + 1) s .idle w' := by
  cases r with
  | sending d =>
    cases hr
    rcases Worker.does_moveRequest_sending d h with ⟨_, hmove, -⟩ | ⟨hblocked, -⟩
    · cases hmove.symm.trans hm
    · cases hblocked.symm.trans hm
  | awaiting =>
    rcases Worker.does_moveRequest_awaiting hr h with
      ⟨_, hready, hduty, hdoes, -, hlen⟩ | ⟨hblocked, -⟩
    · cases hready.symm.trans hm
      exact ⟨hduty, rfl, hlen, hdoes⟩
    · cases hblocked.symm.trans hm

/-- What a step keeps. -/
theorem Sound.step (hcall : server.call = feed.call) (hrow : ∀ n, feed.failuresInRow n < 2 ^ 32)
    (h : Sound server feed duty e) (hs : Step server e e') :
    ∃ duty', Sound server feed duty' e' := by
  cases hs with
  | work hm =>
    obtain ⟨duty', hdoes, hstep⟩ := Worker.does_move hcall (hrow _) h.does hm
    have hidle := hstep.idle_iff
    refine ⟨duty', hdoes, ?_, ?_, hstep.inFlight_eq h.inFlight, h.answers⟩
    · have hsuits := h.request
      show Suits duty' e.request
      cases hreq : e.request with
      | none => trivial
      | some r =>
        rw [hreq] at hsuits
        cases r with
        | sending d => exact hidle.mpr hsuits
        | awaiting => exact fun hi => hsuits (hidle.mp hi)
    · have hsent := h.sent
      by_cases hi : duty = .idle
      · rw [if_pos hi] at hsent; rw [if_pos (hidle.mpr hi)]; exact hsent
      · rw [if_neg hi] at hsent; rw [if_neg fun hi' => hi (hidle.mp hi')]; exact hsent
  | time => exact ⟨duty, h.does, h.request, h.sent, h.inFlight, h.answers⟩
  | call d => exact ⟨duty, h.does, suits_request h.does d, h.sent, h.inFlight, h.answers⟩
  | drop => exact ⟨duty, h.does, trivial, h.sent, h.inFlight, h.answers⟩
  | send hreq hm =>
    have hsuits := h.request
    rw [hreq] at hsuits
    obtain ⟨rfl, rfl, hlen, d, hdoes⟩ := does_send h.does hsuits hm
    have hsent := h.sent
    simp only [↓reduceIte] at hsent
    refine ⟨.ordered d, ⟨hdoes, (fun hi => by cases hi), ?_, h.inFlight, h.answers⟩⟩
    show e.sent + _ = e.taken + 1
    omega
  | answer hreq hm =>
    have hsuits := h.request
    rw [hreq] at hsuits
    obtain ⟨rfl, rfl, hlen, hdoes⟩ := does_answer h.does hsuits hm
    have hsent := h.sent
    rw [if_neg (by decide)] at hsent
    refine ⟨.idle, ?_, trivial, ?_, h.inFlight, ?_⟩
    · show Worker.Does server feed (e.answers ++ [_]).length e.scene .idle _
      rw [List.length_append]
      exact hdoes
    · show e.sent = e.taken + _ + 0
      omega
    · show e.answers ++ [feed.answer e.answers.length] = _
      rw [List.length_append, List.length_singleton, List.range_succ, List.map_append, ← h.answers]
      rfl

theorem Sound.reach (hcall : server.call = feed.call) (hrow : ∀ n, feed.failuresInRow n < 2 ^ 32)
    (h : Sound server feed duty e) (hr : Reach server e e') :
    ∃ duty', Sound server feed duty' e' := by
  induction hr with
  | refl => exact ⟨duty, h⟩
  | tail _ hstep ih =>
    obtain ⟨_, hsound⟩ := ih
    exact hsound.step hcall hrow hstep

/-- What was fetched and not taken is the outcome of the fetch that has ended, if one has. -/
theorem unread_eq {n : Nat} {s : Scene} {w : Worker} (h : Worker.Does server feed n s duty w) :
    w.unread = if duty = .answered then [feed.answer n] else [] := by
  cases h <;> rfl

/-- The answers and what was not taken yet are the outcomes of all the fetches that have ended. -/
theorem Sound.answers_append_unread (h : Sound server feed duty e) :
    e.answers ++ e.worker.unread =
      (List.range (e.scene.calls - e.scene.inFlight)).map feed.answer := by
  rw [unread_eq h.does, h.does.calls_eq, h.inFlight]
  have hanswers := h.answers
  generalize e.answers.length = n at hanswers
  rw [hanswers]
  cases duty with
  | answered =>
    show _ = (List.range (n + 1)).map feed.answer
    rw [if_pos rfl, List.range_succ, List.map_append]
    rfl
  | idle | ordered | delaying | fetching => exact List.append_nil _

/-! ## Main statement -/

/-- However often requests are given up, and in whatever order worker and caller take their steps:
there is one order without its reply or none, and the worker's flag says which; at most one fetch is
under way; and the answers are the outcomes of the first fetches, in order. Whatever else was
fetched is still with the worker. -/
theorem at_most_one_outstanding {capacity : Nat}
    (hcall : server.call = feed.call) (hconnect : (server.connect .empty).1 = .ok ())
    (hrow : ∀ n, feed.failuresInRow n < 2 ^ 32) (hr : Reach server (start capacity) e) :
    (e.sent = e.taken ∧ e.worker.outstanding = false ∨
      e.sent = e.taken + 1 ∧ e.worker.outstanding = true) ∧
    e.scene.inFlight ≤ 1 ∧
    e.answers = (List.range e.answers.length).map feed.answer ∧
    e.answers ++ e.worker.unread =
      (List.range (e.scene.calls - e.scene.inFlight)).map feed.answer := by
  obtain ⟨duty, h⟩ := (sound_start capacity hconnect).reach hcall hrow hr
  refine ⟨?_, ?_, h.answers, h.answers_append_unread⟩
  · have hout := h.does.outstanding_iff
    have hsent := h.sent
    by_cases hi : duty = .idle
    · rw [if_pos hi] at hsent
      refine .inl ⟨hsent, ?_⟩
      cases ho : e.worker.outstanding with
      | false => rfl
      | true => exact absurd hi (hout.mp ho)
    · rw [if_neg hi] at hsent
      exact .inr ⟨hsent, hout.mpr hi⟩
  · rw [h.inFlight]
    cases duty <;> simp [Duty.inFlight]

/-- A request that is given up before its order fits into the channel, one that is given up while
the fetch is under way, and a third that gets the outcome. -/
theorem at_most_one_outstanding_brief :
    ∃ e, Reach Feed.brief.server (start 1) e ∧
      e.answers = [.error (.transport "refused")] ∧
      (e.sent = e.taken ∧ e.worker.outstanding = false ∨
        e.sent = e.taken + 1 ∧ e.worker.outstanding = true) ∧
      e.scene.inFlight ≤ 1 ∧
      e.answers = (List.range e.answers.length).map Feed.brief.answer ∧
      e.answers ++ e.worker.unread =
        (List.range (e.scene.calls - e.scene.inFlight)).map Feed.brief.answer := by
  have hr : Reach Feed.brief.server (start 1) _ :=
    .head (.call 5 rfl) <| .head .drop <|
    .head (.work rfl) <|
    .head (.call 0 rfl) <| .head (.send rfl rfl) <| .head .drop <|
    .head (.work rfl) <| .head (.time 3) <| .head (.work rfl) <| .head (.work rfl) <|
    .head (.call 7 rfl) <| .head (.answer rfl rfl) .refl
  refine ⟨_, hr, rfl, at_most_one_outstanding rfl rfl (fun n => ?_) hr⟩
  have := Feed.failuresInRow_brief_le n
  omega

end Exchange

end RemoteConsole
