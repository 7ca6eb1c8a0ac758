import RemoteConsole.Converter
import RemoteConsole.Lifecycle
import RemoteConsole.Log.Record
import RemoteConsole.Session
import RemoteConsole.Text.Blank

/-!
# Delivering chunks

* `Setting`: the collaborators that a chunk is delivered to: converter, display, hooks.
* `Outlet`: all that has left the stream: chunks for the converter, items for the display, log
  records, and the journal.
* `Delivery`: the state between two deliveries.
* `Delivery.process`: delivers what a fetch brought, and says whether the stream goes on.

Converters and displays may panic: that costs the chunk they panicked on, and nothing else. A hook
that panics breaks off the delivery, and the state is what it had come to.
-/

namespace RemoteConsole

/-- What the collaborators of a stream were asked to do, besides showing items. -/
inductive Entry where
  | connected (endpoint : Endpoint)
  | fetched (session : SessionId)
  | suppressed
  | unloaded (session : SessionId)
  | closed
deriving DecidableEq, Repr

/-- What a display does with an item: the records that it logs, and the panic it ends in. -/
structure Reaction where
  records : List Log.Record
  panic : Option Panic
deriving DecidableEq, Repr

/-- The item is shown, and that is all. -/
def Reaction.quiet : Reaction := ⟨[], none⟩

/-- A display: its reaction to an item, after the items that it was passed before. -/
abbrev Display := List Item → Item → Reaction

/-- Hooks of the program that shows the console: which call to them panics, by the journal
before it. -/
abbrev Hooks := List Entry → Entry → Bool

/-- The collaborators that chunks are delivered to. -/
structure Setting where
  session : SessionId
  converter : Converter
  display : Option Display
  hooks : Option Hooks

/-- All that has left the stream, the oldest first: chunks for the converter, items for the display,
log records, and calls to hooks. -/
structure Outlet where
  converted : List Chunk
  shown : List Item
  records : List Log.Record
  journal : List Entry
deriving Repr

namespace Outlet

/-- Nothing has left the stream. -/
def empty : Outlet := ⟨[], [], [], []⟩

/-- The content of the chunks: what the converter and the display were passed. -/
def content (o : Outlet) : List Chunk × List Item := (o.converted, o.shown)

/-- Adds log records. -/
def log (o : Outlet) (rs : List Log.Record) : Outlet := { o with records := o.records ++ rs }

/-- Adds an entry to the journal. -/
def note (o : Outlet) (e : Entry) : Outlet := { o with journal := o.journal ++ [e] }

end Outlet

namespace Setting

/-- The log target of deliveries. -/
def target : String := "console_stream::processor"

/-- The log target of items without a display. -/
def sinkTarget : String := "console_stream::sink"

variable (s : Setting)

/-- A record about a delivery. -/
def record (level : Log.Level) (message : String) (fields : List (String × String)) :
    Log.Record :=
  .of level target message (("session", s.session.value) :: fields)

/-- The record about an exception of the server. -/
def exceptionRecord (e : ServerException) : Log.Record :=
  s.record .error "remote exception" [("class", e.className), ("message", e.message.getD "")]

/-- The records about exceptions in a chunk. -/
def exceptionRecords : Chunk → List Log.Record
  | .record v => (ServerException.ofJson? v).toList.map s.exceptionRecord
  | .empty => []
  | .text _ => []
  | .batch _ => []
  | .shutdown _ => []

/-- The record for an item that there is no display for. -/
def sinkRecords : Item → List Log.Record
  | .text t => [.of .info sinkTarget (Text.trimEnd t) [("session", s.session.value)]]
  | .dump t => [.of .debug sinkTarget t [("session", s.session.value)]]
  | .exception _ _ => []
  | .clear => []

/-- Passes an item to the display, or to the log when there is none. -/
def present (item : Item) (o : Outlet) : Outlet :=
  match s.display with
  | none => o.log (s.sinkRecords item)
  | some display =>
    let reaction := display o.shown item
    let o := { o with shown := o.shown ++ [item] }.log reaction.records
    match reaction.panic with
    | none => o
    | some p =>
      o.log [s.record .warn "render target panicked; item dropped" [("panic", p.text)]]

/-- Converts a chunk and shows the item that it becomes. -/
def dispatch (c : Chunk) (o : Outlet) : Outlet :=
  let past := o.converted
  let o := { o with converted := past ++ [c] }.log (s.exceptionRecords c)
  match s.converter.convert past c with
  | .item item => s.present item o
  | .nothing => o
  | .failed e =>
    o.log [s.record .warn "chunk converter failed; skipping chunk"
      [("kind", c.sort), ("error", e.text)]]
  | .panicked p =>
    o.log [s.record .warn "chunk converter panicked; skipping chunk"
      [("kind", c.sort), ("panic", p.text)]]

/-- Calls a hook, if there are hooks; the answer says whether it returned. -/
def call (e : Entry) (o : Outlet) : Outlet × Bool :=
  match s.hooks with
  | none => (o, true)
  | some panics => (o.note e, !panics o.journal e)

end Setting

/-- The state between two deliveries. -/
structure Delivery where
  isClosed : Bool
  health : Health.Monitor
  outlet : Outlet
deriving Repr

namespace Delivery

/-- How a delivery ends: with the word whether the stream goes on, or in a panic of a hook. -/
inductive Ending where
  | flow (flow : Flow)
  | panicked
deriving DecidableEq, Repr

variable (s : Setting)

/-- Calls a hook; `next` follows if it returns. -/
def callThen (e : Entry) (next : Delivery → Delivery × Ending) (d : Delivery) :
    Delivery × Ending :=
  let (outlet, returned) := s.call e d.outlet
  let d := { d with outlet := outlet }
  if returned then next d else (d, .panicked)

/-- The stream is over: the close hook is called the first time. -/
def finish (d : Delivery) : Delivery × Ending :=
  if d.isClosed then (d, .flow .stop)
  else callThen s .closed (fun d => (d, .flow .stop)) { d with isClosed := true }

/-- The server shuts the console down. -/
def shutdown (clean : Bool) (d : Delivery) : Delivery × Ending :=
  let d := { d with health := d.health.disable }
  let unload := callThen s (.unloaded s.session) (finish s)
  if clean then callThen s .suppressed unload d else unload d

mutual

/-- Delivers a chunk. -/
def deliver : Chunk → Delivery → Delivery × Ending
  | .empty, d => (d, .flow .continue)
  | .batch chunks, d => deliverAll chunks d
  | .shutdown clean, d => shutdown s clean d
  | .text t, d => ({ d with outlet := s.dispatch (.text t) d.outlet }, .flow .continue)
  | .record v, d => ({ d with outlet := s.dispatch (.record v) d.outlet }, .flow .continue)

/-- Delivers chunks in order, up to one that stops the stream. -/
def deliverAll : List Chunk → Delivery → Delivery × Ending
  | [], d => (d, .flow .continue)
  | c :: rest, d =>
    match deliver c d with
    | (d, .flow .continue) => deliverAll rest d
    | (d, .flow .stop) => (d, .flow .stop)
    | (d, .panicked) => (d, .panicked)

end

/-- Delivers what a fetch brought; without a chunk the stream is over. -/
def process (chunk : Option Chunk) (d : Delivery) : Delivery × Ending :=
  match chunk with
  | none => finish s d
  | some c => deliver s c d

end Delivery

end RemoteConsole
