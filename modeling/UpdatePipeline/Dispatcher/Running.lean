import UpdatePipeline.Dispatcher
set_option autoImplicit false

/-!
# A dispatcher left to itself

Between two operations nothing happens to a dispatcher but that callbacks end and idle
workers take what is queued.  A worker that is done goes on with the queue at once,
unless others are idle already: then they come first, and they wait until every
callback due at that instant has ended.  Every such event lowers the dispatcher's load,
so it comes to rest after finitely many of them.
-/

namespace UpdatePipeline

namespace Dispatcher

/-- The timer that falls due first. -/
def nextTimer? (d : Dispatcher) : Option Timer :=
  d.busy.foldl (fun first worker =>
    match first with
    | none => some worker.timer
    | some t => if worker.timer.isBefore t then some worker.timer else some t) none

/-- A bound on the number of events to come: each queued item may still be taken and
then suspended at every registered handler, each delivery under way at every handler
that it has not tried. -/
def load (d : Dispatcher) : Nat :=
  d.queue.length * (d.registry.toList.length + 1)
    + d.busy.foldr (fun worker n => worker.delivery.rest.length + 1 + n) 0

/-- Events with the instant at which they are seen. -/
abbrev Trace := List (Instant × Delivery.Event)

/-- Stamps events with an instant. -/
def stamp (t : Instant) (events : List Delivery.Event) : Trace := events.map (t, ·)

/-- Lets the worker with this timer go on, and go on with the queue if nobody else is
idle. -/
def finishCallback (d : Dispatcher) (timer : Timer) (clock : Clock) :
    List Delivery.Event × Dispatcher × Clock :=
  let (resumed, next, clock) := d.resume timer clock
  if d.idle = 0 then
    let (taken, next, clock) := next.drain clock
    (resumed ++ taken, next, clock)
  else (resumed, next, clock)

/-- Lets at most `count` callbacks end that are due before `limit`. -/
def runCallbacks : Nat → Instant → Dispatcher → Clock → Trace × Dispatcher × Clock
  | 0, _, d, clock => ([], d, clock)
  | count + 1, limit, d, clock =>
    match d.nextTimer? with
    | none => ([], d, clock)
    | some timer =>
      if timer.due < limit then
        let (events, d, clock) := d.finishCallback timer (clock.moveTo timer.due)
        let (later, d, clock) := runCallbacks count limit d clock
        (stamp timer.due events ++ later, d, clock)
      else ([], d, clock)

/-- Lets all callbacks end that are due before `limit`. -/
def runUntil (limit : Instant) (d : Dispatcher) (clock : Clock) : Trace × Dispatcher × Clock :=
  runCallbacks d.load limit d clock

end Dispatcher

end UpdatePipeline
