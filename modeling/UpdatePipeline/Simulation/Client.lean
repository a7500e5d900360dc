import UpdatePipeline.Intake
import UpdatePipeline.Recovery
import UpdatePipeline.Simulation.Basic
set_option autoImplicit false

/-!
# Simulation: the client's operations

Programs are carried out against the script, and the client's life is put together:
a start brings the workers, catches up and sets the watchdog; a stop takes the
watchdog away and lets the workers finish what is queued.
-/

namespace UpdatePipeline

open Schema (Request Response InputPeer Push)

namespace Simulation

/-! ## Programs -/

/-- Carries an invocation through, with at most `left` attempts. -/
def attempt : Nat → Invocation → SimulationM Reply
  | 0, _ => return .error .dropped
  | left + 1, i => do
    let answer ← send i.request
    waitFor answer.delay
    match i.onReply (← get).config.retry answer.reply with
    | .finished result => return result
    | .retry delay notice i =>
      notice.forM report
      waitFor delay
      attempt left i

/-- Invokes a request. -/
def invoke (request : Request) : SimulationM Reply := do attempt (← get).attemptLimit { request }

/-- Lists the store, if the script lets it. -/
def listRecords : SimulationM (Except IoError (List StateRecord)) :=
  modifyGet fun s =>
    let listings := s.listings + 1
    (if s.script.failsListing listings then .error .diskUnreadable else .ok s.records.values,
      { s with listings })

/-- Writes to the store, if the script lets it. -/
def storeRecord (record : StateRecord) : SimulationM (Except IoError Unit) :=
  modifyGet fun s =>
    let s := { s with writes := s.writes + 1 }
    if s.script.failsWrite s.writes then (.error .diskFull, s)
    else (.ok (), { s with records := s.records.set record })

/-- Carries a program out. -/
def perform {α : Type} : Program α → SimulationM α
  | .done result => return result
  | .invoke request next => do perform (next (← invoke request))
  | .resolve peer next => do perform (next ((← get).script.resolve peer))
  | .listRecords next => do perform (next (← listRecords))
  | .storeRecord record next => do perform (next (← storeRecord record))
  | .enqueue envelope next => do
    onDispatcher fun d => ((), d.enqueue envelope)
    perform next
  | .report notice next => do
    report notice
    perform next
  | .touch next => do
    modify fun s => { s with lastUpdate := s.clock.now }
    perform next

/-! ## Workers -/

/-- Starts the workers, unless they run. -/
def startWorkers : SimulationM Unit :=
  runDispatcher fun d clock =>
    let (events, d) := d.start
    (Dispatcher.stamp clock.now events, d, clock)

/-- Lets the workers, if they run, finish what is queued and leave. -/
def stopWorkers : SimulationM Unit := do
  if (← get).dispatcher.isRunning then
    onDispatcher fun d => ((), d.beginStop)
    awaitWorkers (← get).dispatcher.load
    runDispatcher fun d clock =>
      let (events, d) := d.finishStop
      (Dispatcher.stamp clock.now events, d, clock)

/-! ## The client's life -/

/-- Starts the client.  If catching up fails, the workers stay and there is no
watchdog. -/
def start : SimulationM (Except InvocationError Unit) := do
  startWorkers
  perform Program.touched
  let config := (← get).config
  let caughtUp ←
    if config.skipUpdates then pure (.ok ())
    else (·.map fun _ => ()) <$> perform (Recovery.recoverGaps config)
  if caughtUp.isOk && (← get).watchdog.isNone then restWatchdog
  return caughtUp

/-- Stops the client. -/
def stop : SimulationM Unit := do
  modify fun s => { s with watchdog := none }
  stopWorkers

/-- Recovers every gap. -/
def recover : SimulationM (Except InvocationError Recovery.Stats) := do
  perform (Recovery.recoverGaps (← get).config)

/-- Takes in a push. -/
def push (p : Push) : SimulationM (Except InvocationError Unit) := do
  perform (Intake.take (← get).config p)

/-- Registers a handler. -/
def addHandler (handler : Handler) (group : Int32) : SimulationM HandlerId :=
  onDispatcher (·.addHandler handler group)

/-- Takes a registration back. -/
def removeHandler (id : HandlerId) (group : Int32) : SimulationM (Except DispatchError Unit) :=
  onDispatcher (·.removeHandler id group)

/-- Puts an envelope into the queue. -/
def put (envelope : Envelope) : SimulationM (Except DispatchError Unit) :=
  onDispatcher (·.put envelope)

end Simulation

end UpdatePipeline
