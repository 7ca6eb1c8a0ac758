import RemoteConsole.Delivery

/-!
# Displays that write

* `Device`: how the calls to a device end: to write a piece of text, or to flush.
* `Writer`: what has come of a device: the text that was written, the flushes that were done, and all
  calls that were made. A panic in a call poisons the lock that it is held by.
* `Writer.call`, `writeAll`, `put`: a call, the pieces of an item one after the other, and an item
  with the flush after it.
* `Writer.render`: the writer after one more item, and its reaction. `Writer.accept`: the same for a
  device of one of four kinds.

A failure is logged. Neither a failure nor a panic spoils the writer: the next item takes the lock
whether it is poisoned or not.
-/

namespace RemoteConsole

/-! ## Devices -/

/-- How a call to a device ends. -/
inductive Device.Result where
  | done
  | failed (error : String)
  | panicked (panic : Panic)
deriving DecidableEq, Repr

/-- A call to a device. -/
inductive Device.Call where
  | write (piece : String)
  | flush
deriving DecidableEq, Repr

/-- A device: how calls to write end, and how calls to flush. -/
structure Device where
  write : Device.Result
  flush : Device.Result
deriving DecidableEq, Repr

/-- How a call ends. -/
def Device.answer (d : Device) : Device.Call → Device.Result
  | .write _ => d.write
  | .flush => d.flush

/-! ## Writers -/

/-- What has come of a device: the text that was written, the number of flushes that were done, the
calls that were made, and whether one of them panicked while it held the lock. -/
structure Writer where
  written : String
  flushes : Nat
  calls : List Device.Call
  isPoisoned : Bool
deriving DecidableEq, Repr

namespace Writer

/-- What a device does: all goes well, writing fails, flushing fails, or writing panics. -/
inductive Mode where
  | ok
  | fail
  | flushFail
  | panic
deriving DecidableEq, Repr

/-- The device that does this. -/
def Mode.device : Mode → Device
  | .ok => ⟨.done, .done⟩
  | .fail => ⟨.failed "disk full", .done⟩
  | .flushFail => ⟨.done, .failed "flush failed"⟩
  | .panic => ⟨.panicked (.message "writer panicked"), .done⟩

/-- Nothing was written. -/
def empty : Writer := ⟨"", 0, [], false⟩

/-- The pieces in which an item is written. -/
def pieces : Item → List String
  | .text s => [s]
  | .exception c (some m) => [c, ": ", m, "\n"]
  | .exception c none => [c, "\n"]
  | .dump s => [s, "\n"]
  | .clear => []

/-- The log record about a failure of the device. -/
def failureRecord (error : String) : Log.Record :=
  .of .warn "console_stream::render" "failed to write console output" [("error", error)]

/-- The lock is taken. It says whether it is poisoned, and the writer is behind it in either case. -/
def lock (w : Writer) : Except Writer Writer := if w.isPoisoned then .error w else .ok w

/-- The writer behind the lock. -/
def held (w : Writer) : Writer :=
  match w.lock with
  | .ok w => w
  | .error w => w

/-- The writer after a call that was done. -/
def perform (w : Writer) : Device.Call → Writer
  | .write piece => { w with written := w.written ++ piece }
  | .flush => { w with flushes := w.flushes + 1 }

/-- Makes a call. -/
def call (d : Device) (c : Device.Call) (w : Writer) : Writer × Device.Result :=
  let w := { w with calls := w.calls ++ [c] }
  match d.answer c with
  | .done => (w.perform c, .done)
  | .failed error => (w, .failed error)
  | .panicked p => (w, .panicked p)

/-- Writes pieces up to the first that is not written. A piece without characters makes no call. -/
def writeAll (d : Device) : List String → Writer → Writer × Device.Result
  | [], w => (w, .done)
  | s :: rest, w =>
    if s = "" then writeAll d rest w
    else
      match w.call d (.write s) with
      | (w, .done) => writeAll d rest w
      | (w, .failed error) => (w, .failed error)
      | (w, .panicked p) => (w, .panicked p)

/-- Writes an item, and flushes once all of it was written. -/
def put (d : Device) (item : Item) (w : Writer) : Writer × Device.Result :=
  match writeAll d (pieces item) w with
  | (w, .done) => w.call d .flush
  | (w, .failed error) => (w, .failed error)
  | (w, .panicked p) => (w, .panicked p)

/-- The reaction to an item whose last call ended so: a failure is logged, and a panic goes on. -/
def reaction : Device.Result → Reaction
  | .done => .quiet
  | .failed error => ⟨[failureRecord error], none⟩
  | .panicked p => ⟨[], some p⟩

/-- The writer after one more item, and its reaction. -/
def render (d : Device) (w : Writer) (item : Item) : Writer × Reaction :=
  let (w, result) := put d item w.held
  ({ w with isPoisoned := w.isPoisoned || (reaction result).panic.isSome }, reaction result)

/-- The writer after one more item, and its reaction, when the device is of this kind. -/
def accept (mode : Mode) (w : Writer) (item : Item) : Writer × Reaction :=
  render mode.device w item

/-- The display of a writer whose device does the same with every call. -/
def display (mode : Mode) : Display := fun _ item => (accept mode empty item).2

/-- The writer that was passed these items. -/
def ofItems (mode : Mode) (items : List Item) : Writer :=
  items.foldl (fun w item => (accept mode w item).1) empty

end Writer

end RemoteConsole
