import Mathlib.Logic.Relation
import RemoteConsole.Client
import RemoteConsole.Proofs.Delivery.Laws
import RemoteConsole.Proofs.Feed
import RemoteConsole.Proofs.Lifecycle.Bearing
import RemoteConsole.Proofs.Poller.Polling

/-!
# The course of a stream

A client that is served by a feed goes from point to point, and nothing but the feed, the policy and
the collaborators decides how: not where fetches run, nor the health signal.

* `Point`: how far a stream has come, and `Point.next`, `Point.Ahead`: where it goes from there.
* `Trace`: what a stream has done: its fetches with their times, the chunks converted, the items, the
  fetches and calls to hooks in order, the events apart from those about its health, and how and when
  it ended.
* `Stream.trace`, `Point.trace`: the trace of a stream, and the trace that a stream has at a point.
-/

namespace RemoteConsole

/-- How far a stream has come: it has not started; the fetch `i` is the next; it has begun; its
outcome was consumed and has to be delivered; the stream was closed by it; the driver has ended. -/
inductive Point where
  | ready
  | booked (i : Nat)
  | underway (i : Nat)
  | received (i : Nat)
  | leaving (i : Nat)
  | finished (i : Nat)
deriving DecidableEq, Repr

namespace Feed

variable (feed : Feed) (p : Backoff.Policy)

/-- What the driver delivers after the outcome `i`. -/
def chunkAt (i : Nat) : Option Chunk :=
  match feed.answer i with
  | .ok chunk => chunk
  | .error _ => none

/-- The leaves of what the driver delivers before the fetch `n`. -/
def contentsBefore (n : Nat) : List Chunk :=
  (List.range n).flatMap fun i => Chunk.contentsIn (feed.chunkAt i)

/-- The phase in which the outcome `i` is looked at. -/
def phaseAt (i : Nat) : Phase :=
  match feed.answer i with
  | .ok _ => .delivering
  | .error _ => .backoff

/-- There is a delivery after the outcome `i`: it is a success, or the last. -/
def isDelivered (i : Nat) : Bool :=
  match feed.answer i with
  | .ok _ => true
  | .error _ => (feed.ending? p i).isSome

/-- The events between the outcome `i` and the next fetch. -/
def passage (i : Nat) : List Event :=
  match feed.answer i with
  | .ok _ => [.phaseChanged .polling .delivering, .phaseChanged .delivering .polling]
  | .error e => [
    .phaseChanged .polling .backoff,
    .retryScheduled (feed.pause p i) (p.stepAfter (feed.streak i)) e.code,
    .phaseChanged .backoff .polling]

section

variable {feed p} {i : Nat} {chunk : Option Chunk} {e : FetchError}

theorem chunkAt_ok (h : feed.answer i = .ok chunk) : feed.chunkAt i = chunk := by
  unfold chunkAt; rw [h]

theorem chunkAt_error (h : feed.answer i = .error e) : feed.chunkAt i = none := by
  unfold chunkAt; rw [h]

theorem phaseAt_ok (h : feed.answer i = .ok chunk) : feed.phaseAt i = .delivering := by
  unfold phaseAt; rw [h]

theorem phaseAt_error (h : feed.answer i = .error e) : feed.phaseAt i = .backoff := by
  unfold phaseAt; rw [h]

theorem isDelivered_ok (h : feed.answer i = .ok chunk) : feed.isDelivered p i = true := by
  unfold isDelivered; rw [h]

theorem isDelivered_error (h : feed.answer i = .error e) :
    feed.isDelivered p i = (feed.ending? p i).isSome := by
  unfold isDelivered; rw [h]

theorem passage_ok (h : feed.answer i = .ok chunk) :
    feed.passage p i =
      [.phaseChanged .polling .delivering, .phaseChanged .delivering .polling] := by
  unfold passage; rw [h]

theorem passage_error (h : feed.answer i = .error e) :
    feed.passage p i = [
      .phaseChanged .polling .backoff,
      .retryScheduled (feed.pause p i) (p.stepAfter (feed.streak i)) e.code,
      .phaseChanged .backoff .polling] := by
  unfold passage; rw [h]

/-- The outcome that closes the stream is delivered. -/
theorem isDelivered_of_ending {reason : CloseReason} (h : feed.ending? p i = some reason) :
    feed.isDelivered p i = true := by
  cases ha : feed.answer i with
  | ok => exact isDelivered_ok ha
  | error => rw [isDelivered_error ha, h]; rfl

end

theorem contentsBefore_succ (n : Nat) :
    feed.contentsBefore (n + 1) = feed.contentsBefore n ++ Chunk.contentsIn (feed.chunkAt n) := by
  unfold contentsBefore
  rw [List.range_succ, List.flatMap_append, List.flatMap_singleton]

/-- The events before the fetch `n`, with their times. -/
def log (n : Nat) : List (Nat × Event) :=
  (0, .phaseChanged .idle .polling) ::
    (List.range n).flatMap fun i => (feed.passage p i).map fun e => (feed.arrival p i, e)

/-- The events up to the delivery after the outcome `n`. -/
def logReceived (n : Nat) : List (Nat × Event) :=
  feed.log p n ++ [(feed.arrival p n, .phaseChanged .polling (feed.phaseAt n))]

/-- The events of a stream that the outcome `n` has closed. -/
def logClosed (n : Nat) : List (Nat × Event) :=
  feed.logReceived p n ++
    ((feed.ending? p n).toList.flatMap fun reason =>
      [.phaseChanged (feed.phaseAt n) .closed, .closed reason]).map fun e => (feed.arrival p n, e)

theorem log_succ (n : Nat) :
    feed.log p (n + 1) =
      feed.log p n ++ (feed.passage p n).map fun e => (feed.arrival p n, e) := by
  unfold log
  rw [List.range_succ, List.flatMap_append, List.flatMap_singleton]
  rfl

end Feed

namespace Point

/-- The point that follows. -/
def next (feed : Feed) (p : Backoff.Policy) : Point → Option Point
  | .ready => some (.booked 0)
  | .booked i => some (.underway i)
  | .underway i => some (if feed.isDelivered p i then .received i else .booked (i + 1))
  | .received i => some (if (feed.ending? p i).isSome then .leaving i else .booked (i + 1))
  | .leaving i => some (.finished i)
  | .finished _ => none

/-- The point lies ahead of the start, by way of the points between. -/
abbrev Ahead (feed : Feed) (p : Backoff.Policy) : Point → Point → Prop :=
  Relation.ReflTransGen fun q q' => q.next feed p = some q'

end Point

/-- What a stream has done. -/
structure Trace where
  record : Record
  events : List (Nat × Event)
  ending : Option (CloseReason × Nat)
deriving Repr

namespace Stream

/-- The events that were published, with their times, apart from those about health. -/
def milestones (s : Stream) : List (Nat × Event) :=
  (s.published.filter fun p => !p.event.isHealth).map fun p => (p.time, p.event)

/-- What the stream has done; when it has ended, also why and when. -/
def trace (s : Stream) : Trace :=
  ⟨s.scene.record, s.milestones, s.closed?.map fun reason => (reason, s.now)⟩

end Stream

namespace Client

variable (c : Client) (feed : Feed)

/-- The record when `n` outcomes were consumed and delivered. -/
def recordBefore (n : Nat) : Record where
  begun := (List.range n).map (feed.beginning c.options.backoff)
  converted := feed.contentsBefore n
  shown := c.setting.passed (c.setting.converter.itemsAfter [] (feed.contentsBefore n))
  journal := List.replicate n (.fetched c.server.session)

/-- The record when the fetch `n` has begun. -/
def recordFetched (n : Nat) : Record :=
  (c.recordBefore feed n).fetch c.server.session (feed.beginning c.options.backoff n)

/-- The record of a stream that the outcome `n` has closed. -/
def recordClosed (n : Nat) : Record where
  begun := (c.recordFetched feed n).begun
  converted := (c.recordBefore feed (n + 1)).converted
  shown := (c.recordBefore feed (n + 1)).shown
  journal := (c.recordFetched feed n).journal ++
    c.setting.heard (Delivery.farewell c.setting ((feed.chunkAt n).bind Chunk.notice?) false)

/-- The record before the fetch `n + 1` is the one at the fetch `n`, with the leaves that it brought
and their items. -/
theorem recordBefore_succ (n : Nat) :
    c.recordBefore feed (n + 1) =
      { c.recordFetched feed n with
        converted := (c.recordFetched feed n).converted ++ Chunk.contentsIn (feed.chunkAt n)
        shown := (c.recordFetched feed n).shown ++
          c.setting.passed (c.setting.converter.itemsAfter (c.recordFetched feed n).converted
            (Chunk.contentsIn (feed.chunkAt n))) } := by
  unfold recordFetched recordBefore Record.fetch
  simp only [feed.contentsBefore_succ, Converter.itemsAfter_append, List.nil_append,
    List.range_succ, List.map_append, List.map_singleton, Setting.passed_append,
    List.replicate_succ']

end Client

/-- The trace that a client's stream has at a point. -/
def Point.trace (c : Client) (feed : Feed) : Point → Trace
  | .ready => ⟨.empty, [], none⟩
  | .booked i => ⟨c.recordBefore feed i, feed.log c.options.backoff i, none⟩
  | .underway i => ⟨c.recordFetched feed i, feed.log c.options.backoff i, none⟩
  | .received i => ⟨c.recordFetched feed i, feed.logReceived c.options.backoff i, none⟩
  | .leaving i => ⟨c.recordClosed feed i, feed.logClosed c.options.backoff i, none⟩
  | .finished i =>
    ⟨c.recordClosed feed i, feed.logClosed c.options.backoff i,
      (feed.ending? c.options.backoff i).map fun reason =>
        (reason, feed.arrival c.options.backoff i)⟩

/-- A fetch that begins leads from one trace to the next. -/
theorem Point.trace_underway {c : Client} {feed : Feed} {i : Nat} {record : Record}
    {events : List (Nat × Event)}
    (h : Trace.mk record events none = (Point.booked i).trace c feed) :
    Trace.mk (record.fetch c.server.session (feed.beginning c.options.backoff i)) events none =
      (Point.underway i).trace c feed := by
  have hrecord : record = c.recordBefore feed i := congrArg (·.record) h
  have hevents : events = feed.log c.options.backoff i := congrArg (·.events) h
  rw [hrecord, hevents]
  rfl

end RemoteConsole
