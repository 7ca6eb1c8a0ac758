import RemoteConsole.Proofs.Stream.Breakage

/-!
# The sizes of a client's channels

A client accepts any sizes of its channels but zero. Channels of some of these sizes cannot be had:
the broadcast of events is made when a stream starts, and the channels of a worker when it fetches
first, in the midst of its run.

* `Builder.build_options`: the options of a client that was built are those that were given, and
  valid.
* `Client.start_staffed`: what `Stream.brokenBy_reach` asks of a stream holds when it starts.
* `Client.exists_crashed`: a stream whose worker cannot have its channels comes to break off.
* `Client.channel_sizes_decide`: with sizes that can be had neither the start of a stream nor its
  driver breaks off for them, and with others they do.
-/

namespace RemoteConsole

/-- A client has the options that it was built with, and they are valid. -/
theorem Builder.build_options {b : Builder} {fresh : SessionId} {c : Client}
    (h : b.build fresh = .ok c) : c.options = b.options ∧ c.options.validate = .ok () := by
  unfold build at h
  split at h
  · cases h
  · cases h
  · next source endpoint _ _ =>
    cases hname : requireName "endpoint" endpoint.value with
    | error e => rw [hname] at h; cases h
    | ok =>
      cases hsession : b.chooseSession fresh with
      | error e => rw [hname, hsession] at h; cases h
      | ok session =>
        cases hvalid : b.options.validate with
        | error e => rw [hname, hsession, hvalid] at h; cases h
        | ok =>
          rw [hname, hsession, hvalid] at h
          cases h
          exact ⟨rfl, hvalid⟩

namespace Client

open RemoteConsole.Stream (Staffed Reach)

variable {c : Client} {isThreaded : Bool} {scene₀ scene : Scene} {s₀ s : Stream}

theorem start_staffed (h : c.start isThreaded scene₀ = (.ok s₀, scene)) :
    Staffed c.plan (c.options.offload.offloads isThreaded) s₀ ∧
      s₀.lifecycle.bearing.Within c.options.backoff ∧ s₀.stage = .starting ∧
      s₀.scene.calls = scene₀.calls := by
  obtain ⟨-, poller, hselect, rfl⟩ := start_ok_iff.mp h
  refine ⟨?_, .ofOptions c.options, rfl, ?_⟩
  · rcases Poller.select_ok hselect with ⟨hmode, rfl, -⟩ | ⟨hmode, rfl, -⟩
    · exact ⟨.pending hmode, nofun, nofun⟩
    · exact ⟨.direct hmode, nofun, nofun⟩
  · rcases Poller.select_ok hselect with ⟨-, -, rfl⟩ | ⟨-, -, rfl⟩
    · rfl
    · exact c.server.connect_calls scene₀

/-- The driver starts, and waits for its first fetch. -/
theorem reach_waiting (h : c.start isThreaded scene₀ = (.ok s₀, scene)) :
    ∃ s, Reach c.plan s₀ s ∧ s.stage = .waiting (.fresh 0) ∧ s.closeWanted = false := by
  obtain ⟨poller, rfl, -⟩ := start_ok h
  let s₀ : Stream := .ofOptions c.options poller scene
  have hstart : Stream.DriverMove c.plan s₀ (s₀.proceed (s₀.lifecycle.start 0)) := .start rfl
  have hfetch : Stream.DriverMove c.plan (s₀.proceed (s₀.lifecycle.start 0)) _ := .fetch rfl
  exact ⟨_, .tail (.single (.driver hstart.move_eq)) (.driver hfetch.move_eq), rfl, rfl⟩

/-- A stream whose worker cannot have its channels comes to break off. -/
theorem exists_crashed (h : c.start isThreaded scene₀ = (.ok s₀, scene))
    (hmode : c.options.offload.offloads isThreaded = true)
    (hlarge : Worker.capacityLimit < c.options.workerCapacity.toNat) :
    ∃ s, Reach c.plan s₀ s ∧ s.stage = .crashed := by
  obtain ⟨hstaffed, -⟩ := start_staffed h
  rw [hmode] at hstaffed
  obtain ⟨s, hr, hs, hc⟩ := reach_waiting h
  obtain ⟨s', hm, hcrashed⟩ := (hstaffed.reach hr).breaks hlarge hs hc
  exact ⟨s', hr.tail (.driver hm), hcrashed⟩

/-! ## Main statement -/

/-- The options are valid, so both sizes are positive. The start of a stream breaks off if and only
if the broadcast is larger than can be had, once the server is connected to where the stream needs
that. In whatever order driver and worker of a stream take their steps, and whatever the server and
the hooks do: a worker has channels of the size that was asked for, which can be had, and the first
fetch gets it if they can. The driver breaks off for the size of these channels only if they cannot
be had; the other causes are a fetch that panics where the stream fetches by itself, a policy that
retries as often as can be counted, and a hook that panics. If the channels cannot be had, nothing is
ever fetched: the driver breaks off when it waits for its first fetch, unless a close is asked for
before, and it can come to that. -/
theorem channel_sizes_decide (hvalid : c.options.validate = .ok ()) (isThreaded : Bool)
    (scene₀ : Scene) :
    let orders := c.options.workerCapacity.toNat
    let events := c.options.eventCapacity.toNat
    let offloads := c.options.offload.offloads isThreaded
    (0 < orders ∧ 0 < events) ∧
    (∀ fault, (c.start isThreaded scene₀).1 = .error (.fault fault) ↔
      fault = .channelSize ∧ Broadcast.capacityLimit < events ∧
        (offloads = true ∨ (c.server.connect scene₀).1 = .ok ())) ∧
    ∀ s₀ scene, c.start isThreaded scene₀ = (.ok s₀, scene) →
      events ≤ Broadcast.capacityLimit ∧
      (∀ s, Reach c.plan s₀ s →
        (∀ w, s.poller = .running w →
          offloads = true ∧ w.capacity = orders ∧ orders ≤ Worker.capacityLimit) ∧
        (orders ≤ Worker.capacityLimit → ∀ poll, s.stage = .waiting poll → s.closeWanted = false →
          s.poller = .pending →
            ∃ s', s.moveDriver c.plan = some s' ∧ s'.poller = .running (.spawned orders)) ∧
        (s.stage = .crashed →
          offloads = true ∧ Worker.capacityLimit < orders ∨
          offloads = false ∧ c.server.Panicked s.scene.calls ∨
          c.options.backoff.maxRetries = 0xffffffff ∨ ¬ c.setting.HooksReturn)) ∧
      (offloads = true → Worker.capacityLimit < orders →
        (∃ s, Reach c.plan s₀ s ∧ s.stage = .crashed) ∧
        ∀ s, Reach c.plan s₀ s → s.scene.calls = scene₀.calls ∧
          ∀ poll, s.stage = .waiting poll → s.closeWanted = false →
            ∃ s', s.moveDriver c.plan = some s' ∧ s'.stage = .crashed) := by
  intro orders events offloads
  obtain ⟨hordered, hpos⟩ := Options.validate_iff.mp hvalid
  refine ⟨hpos, fun fault => start_fault_iff, fun s₀ scene hstart => ?_⟩
  obtain ⟨hstaffed, hwithin, hstage, hcalls⟩ := start_staffed hstart
  refine ⟨(start_ok_iff.mp hstart).1,
    fun s hr => ⟨fun w hw => ?_, fun hle poll hs hc hp => ?_, fun hcrashed => ?_⟩,
    fun hmode hlarge => ⟨exists_crashed hstart hmode hlarge, fun s hr => ?_⟩⟩
  · have hsized := (hstaffed.reach hr).sized
    rw [hw] at hsized
    cases hsized with
    | running hmode hcapacity _ hle => exact ⟨hmode, hcapacity, hle⟩
  · exact (hstaffed.reach hr).hires hpos.1 hle hs hc hp
  · have hrunning : s₀.stage ≠ .crashed := by rw [hstage]; nofun
    cases Stream.brokenBy_reach hordered hpos.1 hstaffed hwithin hrunning hr hcrashed with
    | channels hmode hlarge => exact .inl ⟨hmode, hlarge⟩
    | fetch hmode hpanic => exact .inr (.inl ⟨hmode, hpanic⟩)
    | counter hmost => exact .inr (.inr (.inl hmost))
    | hook hpanics => exact .inr (.inr (.inr hpanics))
  · have hstaffed' : Staffed c.plan true s₀ := hmode ▸ hstaffed
    refine ⟨(hstaffed'.calls_reach hlarge hr).trans hcalls, fun poll hs hc => ?_⟩
    exact (hstaffed'.reach hr).breaks hlarge hs hc

/-- The parts of a client with a server in the same program, whose fetches run on a worker. -/
def parts (orders events : UInt64) : Builder :=
  { Builder.empty.service Feed.brief.call with
    session := some ⟨"app-1"⟩
    options := ⟨.default, .default, .always, orders, events⟩ }

/-- The client of these parts. -/
def ofSizes (orders events : UInt64) : Client where
  server := ⟨Builder.inProcess, ⟨"app-1"⟩, none, Feed.brief.call⟩
  setting := ⟨⟨"app-1"⟩, .standard, none, none⟩
  options := ⟨.default, .default, .always, orders, events⟩

/-- With the sizes that are taken where none are given no stream ever breaks off. With more orders
than can be had one does, and nothing is fetched for it. -/
theorem channel_sizes_decide_brief :
    ((parts 4 256).build ⟨"fresh"⟩ = .ok (ofSizes 4 256) ∧
      ∃ s₀ scene, (ofSizes 4 256).start true .empty = (.ok s₀, scene) ∧
        ∀ s, Reach (ofSizes 4 256).plan s₀ s → s.stage ≠ .crashed) ∧
    (parts 0x2000000000000000 256).build ⟨"fresh"⟩ = .ok (ofSizes 0x2000000000000000 256) ∧
      ∃ s₀ scene s, (ofSizes 0x2000000000000000 256).start true .empty = (.ok s₀, scene) ∧
        Reach (ofSizes 0x2000000000000000 256).plan s₀ s ∧ s.stage = .crashed ∧
          s.scene.calls = 0 := by
  constructor
  · have hbuild : (parts 4 256).build ⟨"fresh"⟩ = .ok (ofSizes 4 256) := rfl
    obtain ⟨-, -, hstarted⟩ := channel_sizes_decide (Builder.build_options hbuild).2 true .empty
    obtain ⟨-, hruns, -⟩ := hstarted _ _ rfl
    refine ⟨hbuild, _, _, rfl, fun s hr hcrashed => ?_⟩
    rcases (hruns s hr).2.2 hcrashed with ⟨-, hlarge⟩ | ⟨hmode, -⟩ | hmost | hpanics
    · revert hlarge
      decide
    · cases hmode
    · revert hmost
      decide
    · exact hpanics nofun
  · have hbuild : (parts 0x2000000000000000 256).build ⟨"fresh"⟩ =
        .ok (ofSizes 0x2000000000000000 256) := rfl
    obtain ⟨-, -, hstarted⟩ := channel_sizes_decide (Builder.build_options hbuild).2 true .empty
    obtain ⟨-, -, hlarge⟩ := hstarted _ _ rfl
    obtain ⟨⟨s, hr, hcrashed⟩, hall⟩ := hlarge rfl (by decide)
    exact ⟨hbuild, _, _, s, rfl, hr, hcrashed, (hall s hr).1⟩

/-- Sizes that are accepted when a client is built, and cannot be had: a stream that breaks off when
it starts, and one that breaks off in its run. -/
theorem channel_sizes_accepted :
    (∃ c, (parts 4 0x8000000000000000).build ⟨"fresh"⟩ = .ok c ∧ c.options.validate = .ok () ∧
      (c.start true .empty).1 = .error (.fault .channelSize)) ∧
    ∃ c s₀ scene s, (parts 0x2000000000000000 256).build ⟨"fresh"⟩ = .ok c ∧
      c.options.validate = .ok () ∧ c.start true .empty = (.ok s₀, scene) ∧
        Reach c.plan s₀ s ∧ s.stage = .crashed := by
  constructor
  · exact ⟨ofSizes 4 0x8000000000000000, rfl, rfl, start_fault_iff.mpr ⟨rfl, by decide, .inl rfl⟩⟩
  · have hstart : (ofSizes 0x2000000000000000 256).start true .empty =
        (.ok (.ofOptions (ofSizes 0x2000000000000000 256).options .pending .empty), .empty) := rfl
    obtain ⟨s, hr, hcrashed⟩ := exists_crashed hstart rfl (by decide)
    exact ⟨_, _, _, s, rfl, rfl, hstart, hr, hcrashed⟩

end Client

end RemoteConsole
