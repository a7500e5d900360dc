import UpdatePipeline.Config
import UpdatePipeline.Dispatcher.Running
import UpdatePipeline.Simulation.Script
import UpdatePipeline.Watchdog
set_option autoImplicit false

/-!
# Simulation: a client in virtual time

A simulation holds a client, its store, the script of what it meets, and a clock that
moves only while somebody waits.  Meanwhile workers and watchdog go on in order of
time.  What goes on at one instant has an order too: first the operation that the
simulation carries out, up to its next wait; then the watchdog, if it is due; then the
callbacks that are due, in the order in which their timers were set; then the workers
that were idle.
-/

namespace UpdatePipeline

open Schema (Request)

/-! ## What can be seen -/

/-- What can be seen of a simulation. -/
inductive Occurrence where
  | called (handler : HandlerId) (argument : Argument)
  | reported (notice : Notice)
  /-- An attempt was sent, to which this will be the reply. -/
  | sent (request : Request) (reply : Reply)

/-- An occurrence and its instant. -/
structure Observation where
  instant : Instant
  occurrence : Occurrence

/-- What a delivery shows. -/
def Occurrence.ofEvent : Delivery.Event → Occurrence
  | .called handler argument => .called handler argument
  | .reported notice => .reported notice

/-! ## The state -/

/-- A client among all that it meets. -/
structure Simulation where
  config : Config
  script : Script
  dispatcher : Dispatcher
  records : Records := ∅
  clock : Clock := {}
  /-- When an update was last received, or the client started. -/
  lastUpdate : Instant := 0
  watchdog : Option Watchdog := none
  /-- How often the client has written to the store. -/
  writes : Nat := 0
  /-- How often the client has listed the store. -/
  listings : Nat := 0
  /-- What could be seen, the latest first. -/
  observations : List Observation := []

/-- A step of a simulation. -/
abbrev SimulationM := StateM Simulation

namespace Simulation

/-- A client at the start. -/
def ofConfig (config : Config) (script : Script) (records : Records) : Simulation where
  config
  script
  records
  dispatcher := .ofWorkers config.workers
    (Parsed.Caches.ofCapacities config.messageCacheSize config.connectionCacheSize)

/-- Puts down what is seen at this instant. -/
def observe (occurrence : Occurrence) : SimulationM Unit :=
  modify fun s => { s with observations := ⟨s.clock.now, occurrence⟩ :: s.observations }

/-- Reports a notice. -/
def report (notice : Notice) : SimulationM Unit := observe (.reported notice)

/-- What was seen, in order, which is then forgotten. -/
def takeObservations : SimulationM (List Observation) :=
  modifyGet fun s => (s.observations.reverse, { s with observations := [] })

/-! ## The dispatcher -/

/-- Operates on the dispatcher. -/
def onDispatcher {α : Type} (f : Dispatcher → α × Dispatcher) : SimulationM α :=
  modifyGet fun s =>
    let (result, dispatcher) := f s.dispatcher
    (result, { s with dispatcher })

/-- Lets the dispatcher do something in time. -/
def runDispatcher (f : Dispatcher → Clock → Dispatcher.Trace × Dispatcher × Clock) :
    SimulationM Unit :=
  modify fun s =>
    let (trace, dispatcher, clock) := f s.dispatcher s.clock
    let seen := trace.map fun (instant, event) => ⟨instant, Occurrence.ofEvent event⟩
    { s with dispatcher, clock, observations := seen.reverse ++ s.observations }

/-- Lets idle workers take what is queued. -/
def drainQueue : SimulationM Unit :=
  runDispatcher fun d clock =>
    let (events, d, clock') := d.drain clock
    (Dispatcher.stamp clock.now events, d, clock')

/-! ## The server -/

/-- Sends one attempt. -/
def send (request : Request) : SimulationM ScriptedReply := do
  let answer ← modifyGet fun s =>
    let (answer, script) := s.script.next request
    (answer, { s with script })
  observe (.sent request answer.reply)
  return answer

/-- How many attempts an invocation may take: one for each reply left, and then as
many as a policy can count. -/
def attemptLimit (s : Simulation) : Nat := s.script.replies.length + Invocation.maxFailCount + 1

/-! ## The watchdog -/

/-- Sets the watchdog's next timer. -/
def setWatchdog (delay : Duration) (probe : Option Pending) : SimulationM Unit :=
  modify fun s =>
    { s with watchdog := some { timer := s.clock.timer delay, probe }, clock := s.clock.tick }

/-- Lets the watchdog sleep for an interval. -/
def restWatchdog : SimulationM Unit := do setWatchdog (← get).config.watchdogInterval none

/-- Reports a probe's failure and ends the probe. -/
def endProbe (result : Reply) : SimulationM Unit := do
  match result.bind Schema.Response.asState with
  | .ok _ => pure ()
  | .error e => report (.probeFailed e)
  restWatchdog

/-- Takes in the reply to a probe's attempt; `again` makes another one. -/
def receiveProbe (again : Invocation → SimulationM Unit) (i : Invocation) (reply : Reply) :
    SimulationM Unit := do
  match i.onReply (← get).config.retry reply with
  | .finished result => endProbe result
  | .retry delay notice i =>
    notice.forM report
    if delay = 0 then again i else setWatchdog delay (some (.retry i))

/-- Makes the next attempt of a probe, and at most `left` that follow without a
wait. -/
def sendProbe : Nat → Invocation → SimulationM Unit
  | 0, _ => endProbe (.error .dropped)
  | left + 1, i => do
    let answer ← send i.request
    if answer.delay = 0 then receiveProbe (sendProbe left) i answer.reply
    else setWatchdog answer.delay (some (.reply i answer.reply))

/-- Lets the watchdog go on once its timer has fallen due. -/
def wakeWatchdog (w : Watchdog) : SimulationM Unit := do
  let s ← get
  match w.probe with
  | none =>
    if Watchdog.isSilent s.config.watchdogInterval s.lastUpdate s.clock.now then
      sendProbe s.attemptLimit { request := .getState }
    else restWatchdog
  | some (.reply i reply) => receiveProbe (sendProbe s.attemptLimit) i reply
  | some (.retry i) => sendProbe s.attemptLimit i

/-! ## Waiting -/

/-- Moves the clock. -/
def moveClock (t : Instant) : SimulationM Unit :=
  modify fun s => { s with clock := s.clock.moveTo t }

/-- Lets everything happen that is due before `limit`; the watchdog goes on at most
`count` times. -/
def runBackground : Nat → Instant → SimulationM Unit
  | 0, limit => runDispatcher (Dispatcher.runUntil limit)
  | count + 1, limit => do
    match (← get).watchdog with
    | none => runDispatcher (Dispatcher.runUntil limit)
    | some w =>
      if w.timer.due < limit then
        runDispatcher (Dispatcher.runUntil w.timer.due)
        moveClock w.timer.due
        wakeWatchdog w
        runBackground count limit
      else runDispatcher (Dispatcher.runUntil limit)

/-- Lets everything happen that is due before `limit`.  The watchdog goes on at most
once in a millisecond. -/
def passUntil (limit : Instant) : SimulationM Unit := do
  let now := (← get).clock.now
  runBackground (limit - now) limit

/-- Lets everything happen that needs no more time. -/
def settle : SimulationM Unit := do
  passUntil ((← get).clock.now + 1)
  drainQueue

/-- Waits.  What is due at the end of the wait comes after it. -/
def waitFor (delay : Duration) : SimulationM Unit := do
  if delay = 0 then return
  let due := (← get).clock.now + delay
  settle
  passUntil due
  moveClock due

/-- Waits until at most `count` more callbacks have ended and no worker is left. -/
def awaitWorkers : Nat → SimulationM Unit
  | 0 => pure ()
  | count + 1 => do
    settle
    match (← get).dispatcher.nextTimer? with
    | none => pure ()
    | some t =>
      passUntil (t.due + 1)
      moveClock t.due
      awaitWorkers count

end Simulation

end UpdatePipeline
