import RemoteConsole.Proofs.Poller.Calls
import RemoteConsole.Proofs.Poller.Errand
import RemoteConsole.Proofs.Visits

/-!
# Polls in a row

Someone who polls again and again, and waits for each poll, cannot tell whether there is a worker.

* `Caller.Account`, `Caller.accounts`: what such a caller sees of each poll.
* `Feed.timetable`: what there is to see when the server is served by a feed.
* `Poller.Prepared`: the shapes of a poller between two polls. `Prepared.call`: a poll has the
  account that the feed gives it, and leaves its poller prepared for the next.
* `Caller.polls_alike`: the accounts of a poller without a worker and of one with it.
-/

namespace RemoteConsole

namespace Rehearsal.Caller

/-- What a caller sees of a poll: when it was made and with which delay, when fetches began for it,
and what was answered, and when. -/
structure Account where
  called : Nat
  delay : Nat
  begun : List Nat
  answer : Answer
  answered : Nat

/-- The account of a poll. -/
def account (v : Visit Caller Nat Answer) : Account where
  called := v.before.now
  delay := v.input
  begun := v.after.scene.begun.drop v.before.scene.begun.length
  answer := v.output
  answered := v.after.now

variable (server : Server) (capacity : Nat)

/-- Polls after a delay, and waits for the end. -/
def await (c : Caller) (delay : Nat) : Caller × Answer := c.poll server capacity delay none

/-- Polls after a delay, and waits for the end or up to a limit. -/
def call (c : Caller) (i : Nat × Option Nat) : Caller × Answer := c.poll server capacity i.1 i.2

/-- The accounts of polls that are each waited for. -/
def accounts (c : Caller) (delays : List Nat) : List Account :=
  (visits (await server capacity) c delays).map account

end Rehearsal.Caller

open Rehearsal

/-- The accounts of polls that begin at a time, after `n` fetches: a fetch begins when the delay is
over, and its answer is there when it ends. -/
def Feed.timetable (feed : Feed) : Nat → Nat → List Nat → List Caller.Account
  | _, _, [] => []
  | n, now, delay :: delays =>
    let answered := now + delay + feed.latency n
    ⟨now, delay, [now + delay], .outcome (feed.answer n), answered⟩ ::
      timetable feed (n + 1) answered delays

namespace Poller

/-- The shapes of a poller before a poll, after `n` fetches: it fetches by itself, its worker has
nothing to do, or there is no worker yet. A server that has to be connected to was asked once,
unless there is no worker yet. -/
inductive Prepared (server : Server) (feed : Feed) (capacity : Nat) : Nat → Poller → Scene → Prop
  | itself {n : Nat} {p : Poller} {s : Scene} (hp : p.FetchesItself) (hs : s.calls = n)
      (ha : server.connection.isSome = true → s.attempts = 1) :
      Prepared server feed capacity n p s
  | settled {n : Nat} {j : UInt32} {s : Scene} (hcap : 0 < capacity)
      (hj : j.toNat = feed.failuresInRow n) (hs : s.calls = n)
      (ha : server.connection.isSome = true → s.attempts = 1) :
      Prepared server feed capacity n (.running (.settled capacity j)) s
  | pending {s : Scene} (hle : capacity ≤ Worker.capacityLimit) (hs : s.calls = 0)
      (ha : s.attempts = 0) (hc : (server.connect s).1 = .ok ()) :
      Prepared server feed capacity 0 .pending s

variable {server : Server} {feed : Feed} {capacity n : Nat} {p : Poller} {s : Scene}

/-- A server that was not asked yet has been asked once. -/
theorem connect_once (ha : s.attempts = 0) :
    server.connection.isSome = true → (server.connect s).2.attempts = 1 := by
  intro hsome
  rw [server.connect_attempts, ha, if_pos hsome]

/-- A poll begins its fetch when the delay is over and answers when that ends, and the next poll can
be made. -/
theorem Prepared.call (hcall : server.call = feed.call)
    (hrow : feed.failuresInRow (n + 1) < 2 ^ 32) (h : Prepared server feed capacity n p s)
    (now delay : Nat) :
    ∃ p' s', Caller.await server capacity ⟨now, p, s⟩ delay =
        (⟨now + delay + feed.latency n, p', s'⟩, .outcome (feed.answer n)) ∧
      Prepared server feed capacity (n + 1) p' s' ∧ s'.begun = s.begun ++ [now + delay] := by
  cases h with
  | itself hp hs ha =>
    exact ⟨p, server.fetched (now + delay) s,
      Caller.ends_fresh_itself hcall hp hs delay _ (by decide),
      .itself hp (congrArg (· + 1) hs) ha, rfl⟩
  | @settled _ j _ hcap hj hs ha =>
    obtain ⟨j', hj', htallies⟩ := Worker.exists_tallies hrow hj
    exact ⟨_, server.fetched (now + delay) s,
      Caller.ends_fresh_running hcall hcap htallies hs delay _ (by decide),
      .settled hcap hj' (congrArg (· + 1) hs) ha, rfl⟩
  | pending hle hs ha hc =>
    have hcalls : (server.fetched (now + delay) (server.connect s).2).calls = 0 + 1 :=
      congrArg (· + 1) ((server.connect_calls s).trans hs)
    have hattempts : server.connection.isSome = true → (server.connect s).2.attempts = 1 :=
      connect_once ha
    have hbegun : (server.fetched (now + delay) (server.connect s).2).begun =
        s.begun ++ [now + delay] := congrArg (· ++ [now + delay]) (server.connect_begun s)
    by_cases hzero : capacity = 0
    · exact ⟨.fallback, _, Caller.ends_fresh_unmanned hcall hc hs hzero delay _ (by decide),
        .itself (.inr rfl) hcalls hattempts, hbegun⟩
    · have hcap := Nat.pos_of_ne_zero hzero
      obtain ⟨j', hj', htallies⟩ := Worker.exists_tallies (k := 0) hrow rfl
      exact ⟨_, _, Caller.ends_fresh_pending hcall hc hs hcap hle htallies delay _ (by decide),
        .settled hcap hj' hcalls hattempts, hbegun⟩

/-- After a poll, a server that has to be connected to was asked once. -/
theorem Prepared.attempts_eq {delays : List Nat} (hne : delays ≠ [])
    (h : Prepared server feed capacity (0 + delays.length) p s)
    (hsome : server.connection.isSome = true) : s.attempts = 1 := by
  generalize hn : 0 + delays.length = n at h
  cases h with
  | itself _ _ ha => exact ha hsome
  | settled _ _ _ ha => exact ha hsome
  | pending => exact absurd (List.length_eq_zero_iff.mp (by omega)) hne

/-- A poller that may have a worker does not come to do without one for good. -/
theorem Move.ne_direct {now : Nat} {poll : Poll} {m : Motion Outcome State} {r : State}
    (h : Move server capacity now s p poll m) (hm : after? m = some r) (hp : p ≠ .direct) :
    r.1 ≠ .direct := by
  cases h with
  | fetch | delay | wake | answer | panic => cases hm; exact hp
  | hire | fallBack | unconnected | unspawned | request | shutDown | send | receive =>
    cases hm
    nofun

theorem ne_direct_of_moveWorker {now : Nat} {r : Poller × Scene}
    (h : p.moveWorker server now s = some r) : r.1 ≠ .direct := by
  cases p with
  | running w =>
    obtain ⟨r', -, rfl⟩ := Option.map_eq_some_iff.mp h
    nofun
  | direct | pending | fallback | stopped => cases h

end Poller

namespace Rehearsal.Caller

variable {server : Server} {feed : Feed} {capacity n : Nat} {p : Poller} {s : Scene}

/-- The accounts of all polls are those of the timetable, and the next poll can be made. -/
theorem accounts_eq (hcall : server.call = feed.call) (hrow : ∀ n, feed.failuresInRow n < 2 ^ 32)
    (h : Poller.Prepared server feed capacity n p s) (now : Nat) (delays : List Nat) :
    accounts server capacity ⟨now, p, s⟩ delays = feed.timetable n now delays ∧
      Poller.Prepared server feed capacity (n + delays.length)
        (stateAfter (await server capacity) ⟨now, p, s⟩ delays).poller
        (stateAfter (await server capacity) ⟨now, p, s⟩ delays).scene := by
  induction delays generalizing n now p s with
  | nil => exact ⟨rfl, h⟩
  | cons delay delays ih =>
    obtain ⟨p', s', hawait, hnext, hbegun⟩ := h.call hcall (hrow (n + 1)) now delay
    obtain ⟨hrest, hlast⟩ := ih hnext (now + delay + feed.latency n)
    have haccount : account (visit (await server capacity) ⟨now, p, s⟩ delay) =
        ⟨now, delay, [now + delay], .outcome (feed.answer n), now + delay + feed.latency n⟩ := by
      unfold account visit
      rw [hawait]
      simp only [hbegun, List.drop_left]
    refine ⟨?_, ?_⟩
    · unfold accounts at hrest ⊢
      rw [visits, List.map_cons, haccount, hawait, hrest]
      rfl
    · rw [stateAfter, hawait, List.length_cons, Nat.add_comm delays.length, ← Nat.add_assoc]
      exact hlast

/-! ## Pollers that were given up -/

/-- A poll of a poller that may have a worker leaves it so. -/
theorem wait_ne_direct (limit : Option Nat) (steps : Nat) (c : Caller) (poll : Poll)
    (h : c.poller ≠ .direct) : (c.wait server capacity limit steps poll).1.poller ≠ .direct := by
  induction steps generalizing c poll with
  | zero => exact h
  | succ steps ih =>
    have hmove (m : Motion Outcome Poller.State) (r : Poller.State)
        (hm : Poller.move server capacity c.now (c.poller, poll, c.scene) = m)
        (hr : Poller.after? m = some r) : r.1 ≠ .direct := by
      refine (Poller.Move.of_move hm ?_).ne_direct hr h
      rintro rfl
      cases hr
    unfold wait
    split
    · next hm => exact ih _ _ (hmove _ _ hm rfl)
    · next hm => exact hmove _ _ hm rfl
    · next hm => exact hmove _ _ hm rfl
    · split
      · exact h
      · split
        · next hw => exact ih _ _ (Poller.ne_direct_of_moveWorker hw)
        · split
          · exact ih _ _ h
          · exact h

/-- A poller that was given up answers at once, and nothing is fetched. -/
theorem poll_stopped {c : Caller} (h : c.poller = .stopped) (delay : Nat) (limit : Option Nat) :
    c.poll server capacity delay limit = (c, .outcome (.error Poller.shutDown)) := by
  obtain ⟨now, p, s⟩ := c
  cases h
  rfl

/-- However it was polled before, a poller that was to have a worker and was given up answers every
poll with the same error, and does nothing. -/
theorem stopped_visits {c : Caller} (h : c.poller ≠ .direct)
    (calls later : List (Nat × Option Nat)) :
    ∀ v ∈ visits (call server capacity) (stateAfter (call server capacity) c calls).stop later,
      v.output = .outcome (.error Poller.shutDown) ∧ v.after = v.before := by
  have hpoller : (stateAfter (call server capacity) c calls).poller ≠ .direct :=
    (forall_visits (P := fun c : Caller => c.poller ≠ .direct) (Q := fun _ => True)
      (fun c _ hc => ⟨wait_ne_direct _ _ c _ hc, trivial⟩) h calls).1
  have hstopped : (stateAfter (call server capacity) c calls).stop.poller = .stopped := by
    generalize stateAfter (call server capacity) c calls = c' at hpoller
    obtain ⟨now, p, s⟩ := c'
    cases p with
    | direct => exact absurd rfl hpoller
    | pending | running | fallback | stopped => rfl
  refine (forall_visits (P := fun c : Caller => c.poller = .stopped) (fun c i hc => ?_)
    hstopped later).2
  have hpoll : call server capacity c i = (c, .outcome (.error Poller.shutDown)) :=
    poll_stopped hc i.1 i.2
  unfold visit
  rw [hpoll]
  exact ⟨hc, rfl, rfl⟩

/-! ## Main statement -/

/-- Polls that are each waited for have the same accounts whether there is a worker or not: the
fetch begins when the delay is over, and its answer comes when it ends. A server that has to be
connected to is asked once. It is so for every size of the worker's channels that can be had, and
for none at all, where the stream does without a worker; with a larger size the first poll breaks
off. Once it is given up, a poller that was to have a worker does nothing but fail. -/
theorem polls_alike (hcall : server.call = feed.call)
    (hconnects : (server.connect .empty).1 = .ok ()) (hrow : ∀ n, feed.failuresInRow n < 2 ^ 32)
    (capacity : Nat) (isThreaded : Bool) (now : Nat) :
    ∃ p₁ s₁ p₂ s₂,
      Poller.select server .never isThreaded .empty = (.ok p₁, s₁) ∧
      Poller.select server .always isThreaded .empty = (.ok p₂, s₂) ∧
      (∀ delays, accounts server capacity ⟨now, p₁, s₁⟩ delays = feed.timetable 0 now delays) ∧
      (capacity ≤ Worker.capacityLimit → ∀ delays,
        accounts server capacity ⟨now, p₂, s₂⟩ delays = feed.timetable 0 now delays) ∧
      (server.connection.isSome = true → ∀ delays, delays ≠ [] →
        (stateAfter (await server capacity) ⟨now, p₁, s₁⟩ delays).scene.attempts = 1 ∧
        (capacity ≤ Worker.capacityLimit →
          (stateAfter (await server capacity) ⟨now, p₂, s₂⟩ delays).scene.attempts = 1)) ∧
      (Worker.capacityLimit < capacity → ∀ delay,
        (await server capacity ⟨now, p₂, s₂⟩ delay).2 = .panicked) ∧
      ∀ calls later, ∀ v ∈ visits (call server capacity)
          (stateAfter (call server capacity) ⟨now, p₂, s₂⟩ calls).stop later,
        (∃ e : FetchError, e.isTransport = true ∧ v.output = .outcome (.error e)) ∧
          v.after = v.before := by
  have hdirect : Poller.Prepared server feed capacity 0 .direct (server.connect .empty).2 :=
    .itself (.inl rfl) (server.connect_calls .empty) (Poller.connect_once rfl)
  have hpending (hle : capacity ≤ Worker.capacityLimit) :
      Poller.Prepared server feed capacity 0 .pending .empty := .pending hle rfl rfl hconnects
  refine ⟨_, _, .pending, .empty, Poller.select_direct rfl hconnects, rfl,
    fun delays => (accounts_eq hcall hrow hdirect now delays).1,
    fun hle delays => (accounts_eq hcall hrow (hpending hle) now delays).1,
    fun hsome delays hne => ⟨?_, fun hle => ?_⟩, fun hlarge delay => ?_, fun calls later v hv => ?_⟩
  · exact (accounts_eq hcall hrow hdirect now delays).2.attempts_eq hne hsome
  · exact (accounts_eq hcall hrow (hpending hle) now delays).2.attempts_eq hne hsome
  · rw [show await server capacity ⟨now, .pending, .empty⟩ delay = _ from
      ends_fresh_oversized hlarge delay _ (by decide)]
  · have hpoller : (⟨now, .pending, .empty⟩ : Caller).poller ≠ .direct := nofun
    obtain ⟨houtput, hafter⟩ := stopped_visits hpoller calls later v hv
    exact ⟨⟨_, rfl, houtput⟩, hafter⟩

/-- A failure and a text, the second after a delay of five milliseconds, with and without a
worker. -/
theorem polls_alike_brief :
    let server : Server := { Feed.brief.server with connection := some fun _ => none }
    ∃ p₁ s₁ p₂ s₂,
      Poller.select server .never true .empty = (.ok p₁, s₁) ∧
      Poller.select server .always true .empty = (.ok p₂, s₂) ∧
      accounts server 1 ⟨0, p₁, s₁⟩ [0, 5] =
        [⟨0, 0, [0], .outcome (.error (.transport "refused")), 3⟩,
          ⟨3, 5, [8], .outcome (.ok (some (.text "ready"))), 11⟩] ∧
      accounts server 1 ⟨0, p₂, s₂⟩ [0, 5] = accounts server 1 ⟨0, p₁, s₁⟩ [0, 5] ∧
      (stateAfter (await server 1) ⟨0, p₁, s₁⟩ [0, 5]).scene.attempts = 1 ∧
      (stateAfter (await server 1) ⟨0, p₂, s₂⟩ [0, 5]).scene.attempts = 1 := by
  intro server
  have hcall : server.call = Feed.brief.call := rfl
  have hrow (n : Nat) : Feed.brief.failuresInRow n < 2 ^ 32 :=
    Nat.lt_of_le_of_lt (Feed.failuresInRow_brief_le n) (by decide)
  have hle : 1 ≤ Worker.capacityLimit := by decide
  obtain ⟨p₁, s₁, p₂, s₂, hnever, halways, haccounts₁, haccounts₂, hattempts, -⟩ :=
    polls_alike hcall rfl hrow 1 true 0
  obtain ⟨hattempts₁, hattempts₂⟩ := hattempts rfl [0, 5] (List.cons_ne_nil _ _)
  exact ⟨p₁, s₁, p₂, s₂, hnever, halways, haccounts₁ [0, 5],
    (haccounts₂ hle [0, 5]).trans (haccounts₁ [0, 5]).symm, hattempts₁, hattempts₂ hle⟩

/-- Channels of 2 ^ 61 messages cannot be had. Without a worker the poll has its outcome, and with
it the poll breaks off. -/
theorem polls_apart :
    let server : Server :=
      ⟨⟨"local"⟩, ⟨"app-1"⟩, some fun _ => none, fun _ => ⟨0, .answer (.ok (some (.text "x")))⟩⟩
    ∃ p₁ s₁ p₂ s₂,
      Poller.select server .never false .empty = (.ok p₁, s₁) ∧
      Poller.select server .always false .empty = (.ok p₂, s₂) ∧
      (await server (2 ^ 61) ⟨0, p₁, s₁⟩ 0).2 = .outcome (.ok (some (.text "x"))) ∧
      (await server (2 ^ 61) ⟨0, p₂, s₂⟩ 0).2 = .panicked := by
  intro server
  let feed : Feed := ⟨fun _ => .ok (some (.text "x")), fun _ => 0⟩
  have hcall : server.call = feed.call := rfl
  have hlarge : Worker.capacityLimit < 2 ^ 61 := by decide
  refine ⟨_, _, .pending, .empty, Poller.select_direct rfl rfl, rfl, ?_, ?_⟩
  · rw [show await server (2 ^ 61) ⟨0, .direct, (server.connect .empty).2⟩ 0 = _ from
      ends_fresh_itself hcall (.inl rfl) rfl 0 _ (by decide)]
  · rw [show await server (2 ^ 61) ⟨0, .pending, .empty⟩ 0 = _ from
      ends_fresh_oversized hlarge 0 _ (by decide)]

end Rehearsal.Caller

end RemoteConsole
