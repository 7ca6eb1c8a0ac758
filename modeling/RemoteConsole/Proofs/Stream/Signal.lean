import RemoteConsole.Proofs.Course.Alarms
import RemoteConsole.Proofs.Stream.Ending

/-!
# The health signal and what is told of it

The signal is watched, and its changes are events. The lifecycle changes the one and adds the other
at different places, and a delivery changes the signal and adds nothing.

* `Watch.Mirrors`: a watched signal that went up and down in turn, and was told of each time.
* `Swing`: neither the signal nor what is told changes, or both do. `Mirrors.swing`: signals keep
  mirroring.
* `Lifecycle.account`: the signal of a lifecycle, and its changes among the events. What each call
  does to it is a `Swing`: `account_enter`, `swing_calm`, `swing_receive`, `swing_close`, ...
* `Stream.InTune`: what has to be known of a stream so that its steps are swings: no events are left
  over, and the signal is down when a chunk is at hand.
* `Stream.signal_mirrored`: in every run the signal mirrors the events.
-/

namespace RemoteConsole

/-- The changes of the health signal among events. -/
def Event.signals (es : List Event) : List Bool := es.filterMap Event.signal?

theorem Event.signals_append (xs ys : List Event) :
    Event.signals (xs ++ ys) = Event.signals xs ++ Event.signals ys :=
  List.filterMap_append

/-- The first `n` changes of a signal that is false at first: true, false, true, and so on. -/
def swings (n : Nat) : List Bool := (List.range n).map fun i => i % 2 = 0

theorem length_swings (n : Nat) : (swings n).length = n := by
  unfold swings
  rw [List.length_map, List.length_range]

theorem swings_succ (n : Nat) : swings (n + 1) = swings n ++ [decide (n % 2 = 0)] := by
  unfold swings
  rw [List.range_succ, List.map_append]
  rfl

/-- The last change tells the value, which is false before the first. -/
theorem getLast?_swings (n : Nat) : (swings n).getLast?.getD false = decide (n % 2 = 1) := by
  cases n with
  | zero => rfl
  | succ n =>
    rw [swings_succ, List.getLast?_concat, Option.getD_some]
    exact decide_eq_decide.mpr (by omega)

/-- The signal went up and down in turn, from false on, and was told of each time. -/
structure Watch.Mirrors (w : Watch Bool) (told : List Bool) : Prop where
  told : told = swings w.version
  value : w.value = decide (w.version % 2 = 1)

/-- From one signal and what was told of it to another: both are as before, or the signal has turned
and was told of. -/
inductive Swing : Watch Bool × List Bool → Watch Bool × List Bool → Prop
  | still {x : Watch Bool × List Bool} : Swing x x
  | turned {w : Watch Bool} {told : List Bool} :
      Swing (w, told) (w.send !w.value, told ++ [!w.value])

theorem Swing.of_eq {x y : Watch Bool × List Bool} (h : y = x) : Swing x y := h ▸ .still

/-- What was told before makes no difference. -/
theorem Swing.after {w w' : Watch Bool} {new : List Bool} (h : Swing (w, []) (w', new))
    (told : List Bool) : Swing (w, told) (w', told ++ new) := by
  cases h with
  | still => exact .of_eq (by rw [List.append_nil])
  | turned => exact .turned

theorem Watch.Mirrors.swing {w w' : Watch Bool} {told told' : List Bool} (h : w.Mirrors told)
    (hs : Swing (w, told) (w', told')) : w'.Mirrors told' := by
  cases hs with
  | still => exact h
  | turned =>
    have hflip : (!w.value) = decide (w.version % 2 = 0) := by
      rw [h.value, ← decide_not]
      exact decide_eq_decide.mpr (by omega)
    refine ⟨?_, ?_⟩
    · show told ++ _ = swings (w.version + 1)
      rw [swings_succ, ← h.told, hflip]
    · show (!w.value) = decide ((w.version + 1) % 2 = 1)
      rw [hflip]
      exact decide_eq_decide.mpr (by omega)

/-- A signal that has a value already does not turn to it. -/
theorem Swing.of_value {w : Watch Bool} {told : List Bool} {u : Bool} (h : w.value = u) :
    Swing (w, told) (w.update u, told) :=
  .of_eq (congrArg (·, told) (if_pos h))

theorem Swing.of_not {w : Watch Bool} {told : List Bool} {u : Bool} (h : w.value = !u) :
    Swing (w, told) (w.update u, told ++ [u]) := by
  obtain rfl : u = !w.value := by rw [h, Bool.not_not]
  have hupdate : w.update (!w.value) = w.send !w.value := if_neg (by cases w.value <;> decide)
  rw [hupdate]
  exact .turned

/-! ## Monitors -/

namespace Health.Monitor

variable (m : Monitor)

/-- A deadline makes the signal turn, or not, as it says. -/
theorem swing_fire (now : Nat) (told : List Bool) :
    Swing (m.unhealthy, told)
      ((m.fire now).1.unhealthy, told ++ if (m.fire now).2 then [true] else []) := by
  unfold fire
  cases hdue : m.isDue now with
  | false => exact .of_eq (by simp)
  | true =>
    cases henabled : m.isEnabled with
    | false => exact .of_eq (by simp)
    | true =>
      cases hvalue : m.isUnhealthy with
      | false => exact .of_not hvalue
      | true =>
        have hsame : Swing (m.unhealthy, told) (m.unhealthy.update true, told) := .of_value hvalue
        simpa [set] using hsame

end Health.Monitor

/-! ## Lifecycles -/

namespace Lifecycle

variable (l : Lifecycle)

/-- The health signal, and its changes among the events. -/
def account : Watch Bool × List Bool := (l.health.unhealthy, Event.signals l.events)

theorem account_emit {e : Event} (h : e.signal? = none) : (l.emit e).account = l.account := by
  unfold account emit
  rw [Event.signals_append]
  simp [Event.signals, h]

theorem account_enter (next : Phase) : (l.enter next).account = l.account := by
  unfold enter
  split
  · rfl
  · exact account_emit _ rfl

theorem account_markPending (now : Nat) : (l.markPending now).account = l.account := by
  unfold account markPending
  rw [Health.Monitor.unhealthy_markPending]

theorem account_enterPolling (now : Nat) : (l.enterPolling now).account = l.account := by
  unfold enterPolling
  dsimp only
  split
  · rw [account_markPending, account_enter]
  · exact l.account_enter _

theorem account_retry (e : FetchError) (now : Nat) : (l.retry e now).1.account = l.account := by
  unfold retry
  dsimp only
  split
  · exact l.account_markPending now
  · next delay backoff _ =>
    rw [account_enterPolling, account_emit _ rfl]
    exact l.account_markPending now

/-- A failure leaves the signal alone, also when it breaks off. -/
theorem account_receiveError (e : FetchError) (now : Nat) :
    (l.receiveError e now).1.account = l.account := by
  have henter := l.account_enter .backoff
  unfold receiveError
  dsimp only
  split
  · exact henter
  · split
    · exact henter
    · split
      · exact henter
      · exact (l.failed.account_retry e now).trans henter

/-- The signal is made false, and if it was true, its change is told. -/
theorem swing_calm {change : Health.Monitor → Health.Monitor}
    (h : ∀ m, (change m).unhealthy = m.unhealthy.update false) :
    Swing l.account (l.calm change).account := by
  rw [calm_eq]
  unfold account calmed
  rw [Event.signals_append, h]
  cases hvalue : l.health.isUnhealthy with
  | false =>
    have hsame : Swing (l.health.unhealthy, Event.signals l.events)
        (l.health.unhealthy.update false, Event.signals l.events) := .of_value hvalue
    simpa [Event.signals] using hsame
  | true => exact .of_not hvalue

theorem swing_receiveChunk (chunk : Option Chunk) :
    Swing l.account (l.receiveChunk chunk).1.account := by
  rw [← l.account_enter .delivering]
  exact swing_calm { l.enter .delivering with
    backoff := (l.enter .delivering).backoff.reset, failures := 0 } fun _ => rfl

theorem swing_receive (o : Outcome) (now : Nat) : Swing l.account (l.receive o now).1.account := by
  unfold receive
  split
  · cases o with
    | ok chunk => exact l.swing_receiveChunk chunk
    | error e => exact .of_eq (l.account_receiveError e now)
  · exact .still

theorem swing_close : Swing l.account l.close.1.account := by
  have hcalm : Swing l.account (l.calm .disable).account := l.swing_calm fun _ => rfl
  unfold close
  dsimp only
  rw [account_emit _ rfl, account_enter]
  exact hcalm

theorem receiveChunk_isUnhealthy (chunk : Option Chunk) :
    (l.receiveChunk chunk).1.health.isUnhealthy = false := by
  unfold receiveChunk
  dsimp only
  rw [calm_eq]
  exact Health.Monitor.isUnhealthy_markHealthy _

theorem close_isUnhealthy (h : l.phase ≠ .closed) : l.close.1.health.isUnhealthy = false := by
  rw [l.close_eq h]
  exact Health.Monitor.isUnhealthy_disable _

end Lifecycle

/-- At this stage the health signal is down: a chunk is at hand, or the stream is closed. -/
def Stage.isCalm : Stage → Bool
  | .executing (.deliver (some _)) => true
  | .executing (.close _) => true
  | .leaving _ => true
  | .finished _ => true
  | .executing (.deliver none) => false
  | .executing (.fetch _) => false
  | .executing .wait => false
  | .starting => false
  | .waiting _ => false
  | .crashed => false

namespace Stream

variable {plan : Plan} {s s' : Stream}

/-- The changes of the health signal that were published. -/
def flips (s : Stream) : List Bool := s.published.filterMap (·.event.signal?)

/-- The health signal, and its changes that were published. -/
def account (s : Stream) : Watch Bool × List Bool := (s.lifecycle.health.unhealthy, s.flips)

/-- No events are left over, and the signal is down where it has to be. -/
structure InTune (s : Stream) : Prop where
  quiet : s.stage ≠ .crashed → s.lifecycle.events = []
  calm : s.stage.isCalm = true → s.lifecycle.health.isUnhealthy = false

/-- The signal keeps mirroring from `s` to `s'`. -/
structure Keeps (s s' : Stream) : Prop where
  inTune : s'.InTune
  swing : Swing s.account s'.account

theorem Keeps.congr {s₁ : Stream} (h : Keeps s₁ s') (haccount : s₁.account = s.account) :
    Keeps s s' :=
  ⟨h.inTune, haccount ▸ h.swing⟩

/-! ## Single steps -/

/-- A step that does nothing to the signal. -/
theorem InTune.still (h : s.InTune) (hlifecycle : s'.lifecycle = s.lifecycle)
    (hpublished : s'.published = s.published) (hquiet : s'.stage ≠ .crashed → s.stage ≠ .crashed)
    (hcalm : s'.stage.isCalm = true → s.stage.isCalm = true) : Keeps s s' where
  inTune := ⟨fun hs => hlifecycle ▸ h.quiet (hquiet hs), fun hs => hlifecycle ▸ h.calm (hcalm hs)⟩
  swing := .of_eq (by unfold account flips; rw [hlifecycle, hpublished])

/-- The lifecycle has moved on, and all that it tells is published. -/
theorem keeps_proceed (hquiet : s.lifecycle.events = []) {l : Lifecycle} {command : Command}
    (hswing : Swing s.lifecycle.account l.account)
    (hcalm : (Stage.executing command).isCalm = true → l.health.isUnhealthy = false) :
    Keeps s (s.proceed (l, command)) where
  inTune := ⟨fun _ => rfl, hcalm⟩
  swing := by
    have hflips : (s.proceed (l, command)).flips = s.flips ++ Event.signals l.events :=
      told_proceed Event.signal? s l command
    unfold Lifecycle.account at hswing
    rw [hquiet] at hswing
    unfold account
    rw [hflips]
    exact hswing.after s.flips

theorem keeps_consume (hquiet : s.lifecycle.events = []) (hphase : s.lifecycle.phase = .polling)
    (o : Outcome) : Keeps s (s.consume o) := by
  have hswing := s.lifecycle.swing_receive o s.now
  have htaking : (s.taking o).account = s.account := rfl
  have hquiet : (s.taking o).lifecycle.events = [] := hquiet
  cases o with
  | ok chunk =>
    have hreceive := s.lifecycle.receive_chunk chunk s.now hphase
    rw [hreceive] at hswing
    rw [consume_ok hreceive]
    refine Keeps.congr (keeps_proceed hquiet hswing fun _ => ?_) htaking
    exact s.lifecycle.receiveChunk_isUnhealthy chunk
  | error e =>
    have hreceive := s.lifecycle.receive_error e s.now hphase
    rcases s.lifecycle.receiveError_cases hphase e s.now with
      ⟨l, reason, heq, -⟩ | ⟨-, ⟨l, delay, heq, -⟩ | ⟨l, fault, heq⟩⟩
    · rw [hreceive, heq] at hswing
      rw [consume_ok (hreceive.trans heq)]
      exact Keeps.congr (keeps_proceed hquiet hswing nofun) htaking
    · rw [hreceive, heq] at hswing
      rw [consume_ok (hreceive.trans heq)]
      exact Keeps.congr (keeps_proceed hquiet hswing nofun) htaking
    · -- what is left over when a failure breaks off is never published, and does not tell of the
      -- signal
      have haccount := s.lifecycle.account_receiveError e s.now
      rw [heq] at haccount
      rw [consume_fault (hreceive.trans heq)]
      have hsame : l.health.unhealthy = s.lifecycle.health.unhealthy := congrArg (·.1) haccount
      exact ⟨⟨fun hs => absurd rfl hs, nofun⟩, .of_eq (congrArg (·, s.flips) hsame)⟩

/-- A delivery turns the signal off without a word, but only while a chunk is at hand. -/
theorem InTune.unhealthy_process (h : s.InTune) (plan : Plan) {chunk : Option Chunk}
    (hs : s.stage = .executing (.deliver chunk)) :
    (Delivery.process plan.setting chunk s.delivery).1.health.unhealthy =
      s.lifecycle.health.unhealthy := by
  rw [Delivery.process_health]
  cases chunk with
  | none => rfl
  | some c =>
    have hdown : s.lifecycle.health.isUnhealthy = false := h.calm (by rw [hs]; rfl)
    split
    · exact s.lifecycle.health.unhealthy_disable hdown
    · rfl

theorem InTune.deliver (h : s.InTune) (ho : s.IsOrderly) {chunk : Option Chunk}
    (hs : s.stage = .executing (.deliver chunk)) : Keeps s (s.deliver plan chunk) := by
  obtain ⟨hphase, hgo, -⟩ := ho.deliver hs
  have hsame := h.unhealthy_process plan hs
  have hiff := Delivery.process_continue_iff plan.setting chunk s.delivery
  generalize hprocess : Delivery.process plan.setting chunk s.delivery = result at hsame hiff
  obtain ⟨d, ending⟩ := result
  have haccount : (s.afterDelivery d).account = s.account := congrArg (·, s.flips) hsame
  have hquiet : (s.afterDelivery d).lifecycle.events = [] := h.quiet (by rw [hs]; exact nofun)
  cases ending with
  | panicked =>
    rw [deliver_panicked hprocess]
    exact ⟨⟨fun hne => absurd rfl hne, nofun⟩, .of_eq haccount⟩
  | flow flow =>
    rw [deliver_flow plan hprocess]
    cases flow with
    | «continue» =>
      have hdelivering : (s.afterDelivery d).lifecycle.phase = .delivering := (hgo (hiff.mp rfl)).1
      rw [Lifecycle.delivered_continue _ hdelivering]
      refine Keeps.congr (keeps_proceed hquiet ?_ nofun) haccount
      exact .of_eq (Lifecycle.account_enterPolling _ s.now)
    | stop =>
      have hrunning : (s.afterDelivery d).lifecycle.phase = .delivering ∨
          (s.afterDelivery d).lifecycle.phase = .backoff ∨
          (s.afterDelivery d).lifecycle.phase = .polling := hphase
      have hopen : (s.afterDelivery d).lifecycle.phase ≠ .closed := by
        rcases hrunning with h | h | h <;> rw [h] <;> decide
      rw [Lifecycle.delivered_stop _ hrunning]
      refine Keeps.congr (keeps_proceed hquiet ?_ fun _ => ?_) haccount
      · exact Lifecycle.swing_close _
      · exact Lifecycle.close_isUnhealthy _ hopen

theorem keeps_fireHealth (hquiet : s.lifecycle.events = []) (hs : s.stage.isCalm = false) :
    Keeps s s.fireHealth := by
  rw [fireHealth_quiet hquiet]
  refine ⟨⟨fun _ => hquiet, fun hcalm => ?_⟩, ?_⟩
  · cases hs.symm.trans hcalm
  · have hfire := s.lifecycle.health.swing_fire s.now s.flips
    unfold account flips
    rw [List.filterMap_append]
    split at hfire
    · next hraised => rw [if_pos hraised]; exact hfire
    · next hraised => rw [if_neg hraised]; exact hfire

theorem InTune.driver (h : s.InTune) (ho : s.IsOrderly) (hm : DriverMove plan s s') :
    Keeps s s' := by
  cases hm with
  | start hs =>
    obtain ⟨hphase, -⟩ := ho.starting hs
    rw [s.lifecycle.start_eq hphase]
    exact keeps_proceed (h.quiet (by rw [hs]; exact nofun))
      (.of_eq (s.lifecycle.account_enterPolling s.now)) nofun
  | deliver hs => exact h.deliver ho hs
  | wait hs => exact absurd hs ho.ne_wait
  | requestClose hs =>
    obtain ⟨hphase, -⟩ := ho.waiting hs
    rw [s.lifecycle.requestClose_eq (by rw [hphase]; decide)]
    exact keeps_proceed (h.quiet (by rw [hs]; exact nofun)) .still nofun
  | @consume poll o p hs =>
    obtain ⟨hphase, -⟩ := ho.waiting hs
    have hquiet : (s.withPoll p).lifecycle.events = [] := h.quiet (by rw [hs]; exact nofun)
    exact (keeps_consume hquiet hphase o).congr rfl
  | health hs =>
    exact keeps_fireHealth (h.quiet (by rw [hs]; exact nofun)) (by rw [hs]; rfl)
  | fetch hs | poll hs => exact h.still rfl rfl (fun _ => by rw [hs]; exact nofun) nofun
  | crash hs => exact h.still rfl rfl (fun hne => absurd rfl hne) nofun
  | close hs | leave hs =>
    exact h.still rfl rfl (fun _ => by rw [hs]; exact nofun) fun _ => by rw [hs]; rfl

theorem InTune.step (h : s.InTune) (ho : s.IsOrderly) (hs : Step plan s s') : Keeps s s' := by
  cases hs with
  | driver hm => exact h.driver ho (.of_move hm)
  | worker hm =>
    obtain ⟨poller, scene, -, rfl⟩ := moveWorker_eq hm
    exact h.still rfl rfl id id
  | turn | time | close => exact h.still rfl rfl id id

/-! ## Any number of steps -/

/-- The signal mirrors what is told of it, and will. -/
theorem mirrors_reach (h : s.InTune) (hmirrors : s.lifecycle.health.unhealthy.Mirrors s.flips)
    (hkept : Kept plan s) (hr : Reach plan s s') :
    s'.InTune ∧ s'.lifecycle.health.unhealthy.Mirrors s'.flips := by
  refine hkept.preserves (P := fun s => s.InTune ∧ s.lifecycle.health.unhealthy.Mirrors s.flips)
    ?_ ⟨h, hmirrors⟩ hr
  rintro s s' hkept ⟨htune, hmirrors⟩ hstep
  have hkeeps := htune.step hkept.orderly hstep
  exact ⟨hkeeps.inTune, hmirrors.swing hkeeps.swing⟩

/-! ## Main statement -/

/-- In every run the changes of the health signal that are published go up and down in turn, the
first one up. At every moment the signal has the value that was published last, false if there was
none, and those who watch it had as many notices as there were changes: each step of the run leaves
both alone, or turns the signal and publishes that it did. When the end of the stream was published
or is reported, the signal is down. -/
theorem signal_mirrored {c : Client} {isThreaded : Bool} {scene : Scene} {s₀ s : Stream}
    (hstart : c.start isThreaded .empty = (.ok s₀, scene)) (hr : Reach c.plan s₀ s) :
    s.flips = swings s.flips.length ∧
    s.lifecycle.health.unhealthy = ⟨s.flips.getLast?.getD false, s.flips.length⟩ ∧
    (∀ s', Step c.plan s s' → Swing s.account s'.account) ∧
    ∀ reason, reason ∈ s.closings ∨ s.closed? = some reason → s.flips.getLast? ≠ some true := by
  have hkept := kept_start hstart
  obtain ⟨htune, hmirrors⟩ : s.InTune ∧ s.lifecycle.health.unhealthy.Mirrors s.flips := by
    refine mirrors_reach ?_ ?_ hkept hr
    all_goals
      obtain ⟨poller, rfl, -⟩ := c.start_ok hstart
    · exact ⟨fun _ => rfl, nofun⟩
    · exact ⟨rfl, rfl⟩
  have hlength : s.flips.length = s.lifecycle.health.unhealthy.version := by
    rw [hmirrors.told, length_swings]
  have hvalue : s.lifecycle.health.unhealthy.value = s.flips.getLast?.getD false := by
    rw [hmirrors.value, hmirrors.told, getLast?_swings]
  have ho : s.IsOrderly := (hkept.reach hr).orderly
  refine ⟨hlength ▸ hmirrors.told, ?_, fun s' hs => (htune.step ho hs).swing,
    fun reason htold => ?_⟩
  · rw [hlength, ← hvalue]
  · have hcalm : s.stage.isCalm = true := by
      rcases htold with hmem | hclosed
      · rcases told_reach (untold_start hstart) hr with hu | ⟨told, htold⟩
        · rw [hu.closings] at hmem
          cases hmem
        · rcases htold.stage with hs | hs | ⟨hs, -⟩ <;> rw [hs] <;> rfl
      · rw [stage_of_closed? hclosed]
        rfl
    have hdown : s.lifecycle.health.unhealthy.value = false := htune.calm hcalm
    intro hlast
    rw [hvalue, hlast] at hdown
    cases hdown

/-- A server that is down has the signal go up, and the close that is asked for has it go down. -/
theorem signal_mirrored_brief :
    let c := Client.served (.answer (.error (.transport "down"))) .always
    ∃ s, Reach c.plan (.ofOptions c.options .pending .empty) s ∧ s.closed? = some .requested ∧
      s.flips = [true, false] ∧ s.lifecycle.health.unhealthy = ⟨false, 2⟩ ∧
      s.flips.getLast? ≠ some true := by
  intro c
  have hstart : c.start true .empty = (.ok (.ofOptions c.options .pending .empty), .empty) := rfl
  have hr := Rehearsal.reach_runUntil c.plan 2000 100 20
    ⟨.ofOptions c.options .pending .empty, true, true, [(1500, .close)]⟩
  generalize hend : (Rehearsal.runUntil c.plan 2000 100 20
    ⟨.ofOptions c.options .pending .empty, true, true, [(1500, .close)]⟩).1.stream = s at hr
  have hclosed : s.closed? = some .requested := by rw [← hend]; decide +kernel
  have hflips : s.flips = [true, false] := by rw [← hend]; decide +kernel
  obtain ⟨-, hwatch, -, hlast⟩ := signal_mirrored hstart hr
  rw [hflips] at hwatch
  exact ⟨s, hr, hclosed, hflips, hwatch, hlast .requested (.inr hclosed)⟩

end Stream

end RemoteConsole
