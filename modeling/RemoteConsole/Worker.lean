import RemoteConsole.Server

/-!
# The worker

A worker fetches on behalf of a stream. The stream sends it an order and waits for the reply, so
there is never more than one fetch under way.

* `Worker`: the two channels between the stream and its worker, and what the worker does.
* `Worker.move`: the next step of the worker, if it can take one.
* `Request`, `Worker.moveRequest`: the stream's side of an order. A request may be given up at any
  time; the next one then waits for the reply that is still to come.
-/

namespace RemoteConsole

/-- What a worker is told: to connect, once at first, and to fetch after a delay. -/
inductive Order where
  | connect
  | fetch (delay : Nat)
deriving DecidableEq, Repr

/-- What a worker does: it waits for an order, waits out a delay, waits for the server, hands over
a reply, or is gone. -/
inductive Activity where
  | receiving
  | delaying (wake : Nat)
  | fetching (fetch : Fetch)
  | reporting (outcome : Outcome)
  | gone

/-- A worker and its channels, each of which holds at most `capacity` messages. The stream knows
by `outstanding` that a reply is still to come. -/
structure Worker where
  capacity : Nat
  orders : List Order
  replies : List Outcome
  outstanding : Bool
  activity : Activity
  connection : Except FetchError Unit
  failures : UInt32

namespace Worker

/-- The failure of a request to a worker that is gone. -/
def stopped : FetchError := .transport "offload worker stopped"

/-- A worker that has been told to connect. -/
def spawned (capacity : Nat) : Worker where
  capacity := capacity
  orders := [.connect]
  replies := []
  outstanding := false
  activity := .receiving
  connection := .error (.transport "offload worker not initialized")
  failures := 0

/-- The largest number of messages that a channel can hold. -/
def capacityLimit : Nat := 0x1fffffffffffffff

/-- A worker, if there is a program to run it (`hasRuntime`) and its channels hold something. There
are no channels beyond a certain size. -/
def spawn (hasRuntime : Bool) (capacity : Nat) : Except StartFailure Worker :=
  if !hasRuntime then
    .error (.error (.workerUnavailable
      "there is no reactor running, must be called from the context of a Tokio 1.x runtime"))
  else if capacity = 0 then
    .error (.error (.validation "worker_channel_capacity must be greater than 0"))
  else if capacityLimit < capacity then .error (.fault .channelSize)
  else .ok (.spawned capacity)

/-- The worker is gone. -/
def isGone (w : Worker) : Bool :=
  match w.activity with
  | .gone => true
  | .receiving => false
  | .delaying _ => false
  | .fetching _ => false
  | .reporting _ => false

/-! ## The worker's side -/

/-- The outcome is to be handed over; the worker counts failures in a row, and breaks off when the
counter is full. -/
def report (w : Worker) (outcome : Outcome) : Worker :=
  match outcome with
  | .ok _ => { w with failures := 0, activity := .reporting outcome }
  | .error _ =>
    if w.failures = 0xffffffff then { w with activity := .gone }
    else { w with failures := w.failures + 1, activity := .reporting outcome }

/-- Fetches, if the worker is connected. -/
def beginFetch (server : Server) (now : Nat) (w : Worker) (s : Scene) : Worker × Scene :=
  match w.connection with
  | .error e => (w.report (.error e), s)
  | .ok () =>
    let (fetch, s) := server.begin now s
    ({ w with activity := .fetching fetch }, s)

/-- Carries out an order. -/
def obey (server : Server) (now : Nat) (w : Worker) (s : Scene) : Order → Worker × Scene
  | .connect =>
    let (connection, s) := server.connect s
    ({ w with connection := connection }, s)
  | .fetch delay =>
    if delay = 0 then w.beginFetch server now s
    else ({ w with activity := .delaying (now + delay) }, s)

/-- The next step of the worker at a time, if it can take one. -/
def move (server : Server) (now : Nat) (w : Worker) (s : Scene) : Option (Worker × Scene) :=
  match w.activity with
  | .receiving =>
    match w.orders with
    | [] => none
    | order :: orders => some ({ w with orders := orders }.obey server now s order)
  | .delaying wake => if wake ≤ now then some (w.beginFetch server now s) else none
  | .fetching fetch =>
    if fetch.due ≤ now then
      match fetch.reply with
      | .answer outcome => some (w.report outcome, s.finish)
      | .panic => some ({ w with activity := .gone }, s)
      | .hang => none
    else none
  | .reporting outcome =>
    if w.replies.length < w.capacity then
      some ({ w with replies := w.replies ++ [outcome], activity := .receiving }, s)
    else none
  | .gone => none

/-- The time that the worker waits for. -/
def wake? (w : Worker) : Option Nat :=
  match w.activity with
  | .delaying wake => some wake
  | .fetching fetch => fetch.wake?
  | .receiving => none
  | .reporting _ => none
  | .gone => none

end Worker

/-! ## The stream's side -/

/-- A request: its order is not sent yet, or its reply has not come yet. -/
inductive Request where
  | sending (delay : Nat)
  | awaiting
deriving DecidableEq, Repr

/-- What a step of something that is waited for comes to: it went on, it is there, it has to wait,
or it panicked. -/
inductive Motion (α σ : Type) where
  | moved (state : σ)
  | ready (result : α) (state : σ)
  | blocked
  | crashed (state : σ)

namespace Worker

/-- A new request for a fetch after a delay. When the reply to an earlier request is still to come,
that reply will do. -/
def request (w : Worker) (delay : Nat) : Request :=
  if w.outstanding then .awaiting else .sending delay

/-- The next step of a request. -/
def moveRequest (w : Worker) : Request → Motion Outcome (Worker × Request)
  | .sending delay =>
    if w.isGone then .ready (.error stopped) (w, .sending delay)
    else if w.orders.length < w.capacity then
      .moved ({ w with orders := w.orders ++ [.fetch delay], outstanding := true }, .awaiting)
    else .blocked
  | .awaiting =>
    match w.replies with
    | outcome :: replies =>
      .ready outcome ({ w with replies := replies, outstanding := false }, .awaiting)
    | [] =>
      if w.isGone then .ready (.error stopped) ({ w with outstanding := false }, .awaiting)
      else .blocked

end Worker

end RemoteConsole
