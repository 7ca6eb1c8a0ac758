import RemoteConsole.Client
import RemoteConsole.Display.Buffer
import RemoteConsole.Proofs.Delivery.Laws
import RemoteConsole.Proofs.Feed
import RemoteConsole.Proofs.Poller.Moves

/-!
# Starting a stream

* `Client.start_ok_iff`, `Client.start_fault_iff`: when a stream can be started, and when that breaks
  off.
* `Client.start_ok`, `Client.start_pending`: what a stream looks like that is about to start.
* `Client.Served`: what a client needs to be streamed without a hitch: valid options, a server that
  can be connected to and is served by a feed, and hooks that return.
* `Served.start_direct`, `Served.start_offloaded`: such a client's streams can be started.
* `Feed.client`: a client whose server is there and is served by a feed.
-/

namespace RemoteConsole

/-- A stream can be started when a poller can be chosen and the broadcast can be had. -/
theorem Client.start_ok_iff {c : Client} {isThreaded : Bool} {scene₀ scene : Scene} {s₀ : Stream} :
    c.start isThreaded scene₀ = (.ok s₀, scene) ↔
      c.options.eventCapacity.toNat ≤ Broadcast.capacityLimit ∧
        ∃ poller, Poller.select c.server c.options.offload isThreaded scene₀ = (.ok poller, scene) ∧
          s₀ = .ofOptions c.options poller scene := by
  unfold start
  generalize Poller.select c.server c.options.offload isThreaded scene₀ = selected
  obtain ⟨result, scene'⟩ := selected
  cases result with
  | error e => exact ⟨nofun, fun ⟨_, _, h, _⟩ => nomatch h⟩
  | ok poller =>
    dsimp only
    split
    · next hlarge => exact ⟨nofun, fun h => absurd h.1 (Nat.not_le.mpr hlarge)⟩
    · next hlarge =>
      constructor
      · rintro ⟨⟩
        exact ⟨Nat.le_of_not_lt hlarge, poller, rfl, rfl⟩
      · rintro ⟨-, _, ⟨⟩, rfl⟩
        rfl

/-- A stream that cannot be started for a fault lacks its broadcast. -/
theorem Client.start_fault_iff {c : Client} {isThreaded : Bool} {scene₀ : Scene} {fault : Fault} :
    (c.start isThreaded scene₀).1 = .error (.fault fault) ↔
      fault = .channelSize ∧ Broadcast.capacityLimit < c.options.eventCapacity.toNat ∧
        (c.options.offload.offloads isThreaded = true ∨
          (c.server.connect scene₀).1 = .ok ()) := by
  rw [← Poller.exists_select_ok]
  unfold start
  generalize Poller.select c.server c.options.offload isThreaded scene₀ = selected
  obtain ⟨result, scene'⟩ := selected
  cases result with
  | error e => exact ⟨nofun, fun ⟨_, _, _, h⟩ => nomatch h⟩
  | ok poller =>
    dsimp only
    split
    · next hlarge =>
      constructor
      · rintro ⟨⟩
        exact ⟨rfl, hlarge, poller, rfl⟩
      · rintro ⟨rfl, -⟩
        rfl
    · next hlarge => exact ⟨nofun, fun h => absurd h.2.1 hlarge⟩

/-- A stream that is about to start has a poller without a worker, and nothing was fetched. -/
theorem Client.start_ok {c : Client} {isThreaded : Bool} {scene₀ scene : Scene} {s₀ : Stream}
    (h : c.start isThreaded scene₀ = (.ok s₀, scene)) :
    ∃ poller, s₀ = .ofOptions c.options poller scene ∧
      (poller = .pending ∧ scene = scene₀ ∨
        poller = .direct ∧ scene = (c.server.connect scene₀).2) := by
  obtain ⟨-, poller, hselect, hs₀⟩ := start_ok_iff.mp h
  exact ⟨poller, hs₀, (Poller.select_ok hselect).imp And.right And.right⟩

/-- A stream whose fetches run nowhere else fetches by itself. -/
theorem Client.start_direct {c : Client} {isThreaded : Bool} {scene₀ scene : Scene} {s₀ : Stream}
    (h : c.start isThreaded scene₀ = (.ok s₀, scene))
    (hmode : c.options.offload.offloads isThreaded = false) : s₀.poller = .direct := by
  obtain ⟨-, poller, hselect, rfl⟩ := start_ok_iff.mp h
  rcases Poller.select_ok hselect with ⟨htrue, -⟩ | ⟨-, hdirect, -⟩
  · cases hmode.symm.trans htrue
  · exact hdirect

/-- A stream whose fetches run elsewhere has done nothing yet when it starts. -/
theorem Client.start_pending {c : Client} {isThreaded : Bool} (scene : Scene)
    (hmode : c.options.offload.offloads isThreaded = true)
    (hevents : c.options.eventCapacity.toNat ≤ Broadcast.capacityLimit) :
    c.start isThreaded scene = (.ok (.ofOptions c.options .pending scene), scene) := by
  refine start_ok_iff.mpr ⟨hevents, .pending, ?_, rfl⟩
  unfold Poller.select
  exact if_pos hmode

/-- The client's options are valid and its channels can be had, its server is served by the feed and
can be connected to, and its hooks return. The largest number of retries is left out: after so many
failures the counter would be full. -/
structure Client.Served (c : Client) (feed : Feed) : Prop where
  valid : c.options.validate = .ok ()
  retries : c.options.backoff.maxRetries ≠ 0xffffffff
  orders : c.options.workerCapacity.toNat ≤ Worker.capacityLimit
  events : c.options.eventCapacity.toNat ≤ Broadcast.capacityLimit
  call : c.server.call = feed.call
  connects : (c.server.connect .empty).1 = .ok ()
  hooks : c.setting.HooksReturn

namespace Client.Served

variable {c : Client} {feed : Feed} (h : c.Served feed)
include h

theorem steps : c.options.backoff.IsOrdered ∧ 0 < c.options.workerCapacity.toNat :=
  Options.accepted h.valid

theorem ordered : c.options.backoff.IsOrdered := h.steps.1

theorem capacity_pos : 0 < c.plan.workerCapacity := h.steps.2

theorem retries_lt : c.options.backoff.maxRetries.toNat < 0xffffffff := by
  have hlt := c.options.backoff.maxRetries.toNat_lt
  have hne : c.options.backoff.maxRetries.toNat ≠ 0xffffffff := fun he =>
    h.retries (UInt32.toNat_inj.mp he)
  omega

/-- A stream that fetches by itself has connected when it starts. -/
theorem start_direct {isThreaded : Bool} (hmode : c.options.offload.offloads isThreaded = false) :
    c.start isThreaded .empty =
      (.ok (.ofOptions c.options .direct (c.server.connect .empty).2),
        (c.server.connect .empty).2) :=
  start_ok_iff.mpr ⟨h.events, .direct, Poller.select_direct hmode h.connects, rfl⟩

/-- A stream that fetches through a worker has done nothing yet when it starts. -/
theorem start_offloaded {isThreaded : Bool} (hmode : c.options.offload.offloads isThreaded = true) :
    c.start isThreaded .empty = (.ok (.ofOptions c.options .pending .empty), .empty) :=
  start_pending .empty hmode h.events

end Client.Served

/-- The client with fetches running elsewhere. -/
def Client.withOffload (c : Client) (mode : OffloadMode) : Client :=
  { c with options := c.options.withOffload mode }

/-- A client with the options of a client that was given none, but for where its fetches run. -/
def Feed.client (feed : Feed) (mode : OffloadMode) : Client where
  server := feed.server
  setting := ⟨⟨"console"⟩, .standard, some Buffer.display, none⟩
  options := Options.default.withOffload mode

/-- It is served, wherever its fetches run. -/
theorem Feed.served_client (feed : Feed) (mode : OffloadMode) : (feed.client mode).Served feed where
  valid := rfl
  retries := by
    show Options.default.backoff.maxRetries ≠ 0xffffffff
    decide
  orders := by
    show Options.default.workerCapacity.toNat ≤ Worker.capacityLimit
    decide
  events := by
    show Options.default.eventCapacity.toNat ≤ Broadcast.capacityLimit
    decide
  call := rfl
  connects := rfl
  hooks _ h := by cases h

end RemoteConsole
