import UpdatePipeline.Delivery
import UpdatePipeline.Parsed.Reading
import UpdatePipeline.Time.Clock
set_option autoImplicit false

/-!
# The dispatcher

Envelopes wait in one queue, first in, first out.  Idle workers take them from its
front, parse them and deliver them to the handlers registered at that moment.  To stop,
one marker per worker goes into the queue behind everything else; a worker that takes
a marker leaves.  What is queued behind the markers stays for the next start.
-/

namespace UpdatePipeline

/-- What waits in the queue. -/
inductive QueueItem where
  | envelope (envelope : Envelope)
  /-- The worker that takes this leaves. -/
  | stop

/-- A worker whose delivery waits for a callback. -/
structure BusyWorker where
  timer : Timer
  delivery : Delivery.Suspended

/-- Queue, registry, caches and workers.  The registry is the one that is published to the
workers; the control task has its own (`Control`), which is the same between two messages. -/
structure Dispatcher where
  /-- The number of workers that a start brings. -/
  workers : Nat := 1
  workers_pos : 0 < workers := by omega
  /-- What waits, the oldest first. -/
  queue : List QueueItem := []
  registry : Registry := Registry.empty
  caches : Parsed.Caches
  nextId : HandlerId := 1
  /-- How many workers wait for the queue. -/
  idle : Nat := 0
  /-- The workers that wait for callbacks. -/
  busy : List BusyWorker := []
  /-- Whether the workers have been started and not been stopped since. -/
  isRunning : Bool := false
  /-- Whether the dispatcher has been dropped, with only its sender left. -/
  isDropped : Bool := false

namespace Dispatcher

/-- A dispatcher with this many workers, 0 counting as 1. -/
def ofWorkers (workers : Nat) (caches : Parsed.Caches) : Dispatcher where
  workers := max 1 workers
  caches

/-- How many workers there are at present. -/
def live (d : Dispatcher) : Nat := d.idle + d.busy.length

/-! ## Handlers -/

/-- Registers a handler. -/
def addHandler (d : Dispatcher) (handler : Handler) (group : Int32) : HandlerId × Dispatcher :=
  (d.nextId, { d with nextId := d.nextId + 1, registry := d.registry.add d.nextId handler group })

/-- Takes a registration back. -/
def removeHandler (d : Dispatcher) (id : HandlerId) (group : Int32) :
    Except DispatchError Unit × Dispatcher :=
  match d.registry.remove id group with
  | .ok registry => (.ok (), { d with registry })
  | .error e => (.error e, d)

/-! ## The queue -/

/-- Puts an envelope at the end of the queue. -/
def enqueue (d : Dispatcher) (envelope : Envelope) : Dispatcher :=
  { d with queue := d.queue ++ [.envelope envelope] }

/-- Whether nobody will ever take from the queue again. -/
def isClosed (d : Dispatcher) : Bool := d.isDropped && d.busy.isEmpty

/-- Puts an envelope at the end of the queue, if it is still open. -/
def put (d : Dispatcher) (envelope : Envelope) : Except DispatchError Unit × Dispatcher :=
  if d.isClosed then (.error .closed, d) else (.ok (), d.enqueue envelope)

/-! ## Workers -/

/-- Starts the workers, unless they run. -/
def start (d : Dispatcher) : List Delivery.Event × Dispatcher :=
  if d.isRunning then ([], d)
  else ([.reported (.started d.workers)], { d with idle := d.workers, isRunning := true })

/-- Asks the workers to leave, if they run: one marker each. -/
def beginStop (d : Dispatcher) : Dispatcher :=
  if d.isRunning then { d with queue := d.queue ++ List.replicate d.workers .stop } else d

/-- Completes a stop once no worker is left: all registrations go. -/
def finishStop (d : Dispatcher) : List Delivery.Event × Dispatcher :=
  ([.reported .stopped], { d with isRunning := false, registry := Registry.empty })

/-- Drops the dispatcher: idle workers leave, busy ones finish what they are at. -/
def drop (d : Dispatcher) : Dispatcher := { d with isDropped := true, idle := 0 }

/-- The dispatcher once a worker's delivery has come to a status. -/
def settleWorker (d : Dispatcher) (clock : Clock) (status : Delivery.Status) : Dispatcher × Clock :=
  match status with
  | .finished _ => (if d.isDropped then d else { d with idle := d.idle + 1 }, clock)
  | .suspended delay delivery =>
    ({ d with busy := d.busy ++ [⟨clock.timer delay, delivery⟩] }, clock.tick)

/-- An idle worker takes the first item, if there are both. -/
def pop? (d : Dispatcher) : Option (QueueItem × Dispatcher) :=
  match d.idle, d.queue with
  | idle + 1, item :: queue => some (item, { d with idle, queue })
  | _, _ => none

/-- A worker parses the envelope that it has taken. -/
def parse (d : Dispatcher) (envelope : Envelope) : Delivery.Parcel × Dispatcher :=
  let (parsed, caches) := d.caches.read envelope
  (⟨envelope, parsed⟩, { d with caches })

/-- A worker delivers to the handlers that are registered at this moment. -/
def begin (d : Dispatcher) (clock : Clock) (parcel : Delivery.Parcel) :
    List Delivery.Event × Dispatcher × Clock :=
  let (events, status) := Delivery.begin d.registry parcel
  (events, d.settleWorker clock status)

/-- Lets an idle worker take the first item, if there are both, and begin its delivery. -/
def take? (d : Dispatcher) (clock : Clock) : Option (List Delivery.Event × Dispatcher × Clock) :=
  match d.pop? with
  | some (.stop, d) => some ([], d, clock)
  | some (.envelope envelope, d) =>
    let (parcel, d) := d.parse envelope
    some (d.begin clock parcel)
  | none => none

/-- Lets idle workers take at most `count` items. -/
def takeUpTo : Nat → Dispatcher → Clock → List Delivery.Event × Dispatcher × Clock
  | 0, d, clock => ([], d, clock)
  | count + 1, d, clock =>
    match d.take? clock with
    | none => ([], d, clock)
    | some (events, d, clock) =>
      let (more, d, clock) := takeUpTo count d clock
      (events ++ more, d, clock)

/-- Lets idle workers take items as long as there are both. -/
def drain (d : Dispatcher) (clock : Clock) : List Delivery.Event × Dispatcher × Clock :=
  takeUpTo d.queue.length d clock

/-- Lets the worker with this timer go on. -/
def resume (d : Dispatcher) (timer : Timer) (clock : Clock) :
    List Delivery.Event × Dispatcher × Clock :=
  match d.busy.find? (·.timer == timer) with
  | none => ([], d, clock)
  | some worker =>
    let (events, status) := worker.delivery.resume
    (events, settleWorker { d with busy := d.busy.eraseP (·.timer == timer) } clock status)

end Dispatcher

end UpdatePipeline
