import UpdatePipeline.Notice
import UpdatePipeline.Registry
set_option autoImplicit false

/-!
# Delivery of one envelope

The registered handlers are tried in order.  A handler that matches has its callback
called; one that ends as handled or aborted ends the delivery, and every other one,
failed and panicked ones included, passes on to the next.  A callback that takes time
suspends the delivery, which then holds on to the registrations it began with.
-/

namespace UpdatePipeline

namespace Delivery

/-- What can be seen of a delivery. -/
inductive Event where
  | called (handler : HandlerId) (argument : Argument)
  | reported (notice : Notice)

/-- What is delivered. -/
structure Parcel where
  envelope : Envelope
  parsed : Option Parsed.Update

/-- A delivery that waits for a callback to end. -/
structure Suspended where
  parcel : Parcel
  /-- The registration whose callback is running. -/
  handler : HandlerId
  /-- How the callback is going to end. -/
  ending : Ending
  /-- The registrations not tried yet. -/
  rest : List Registration

/-- How far a delivery has come. -/
inductive Status where
  /-- It is over, ended by the handler named, if any. -/
  | finished (endedBy : Option HandlerId)
  | suspended (delay : Duration) (delivery : Suspended)

/-- What is reported at the end of a callback. -/
def failureEvents (p : Parcel) (handler : HandlerId) (ending : Ending) : List Event :=
  match ending.failure? with
  | some message => [.reported (.handlerFailed handler p.envelope.update.name message)]
  | none => []

/-- Tries registrations in order, as long as no callback is reached that `suspends`. -/
def walk (suspends : Reaction → Bool) (p : Parcel) : List Registration → List Event × Status
  | [] => ([], .finished none)
  | r :: rest =>
    match r.handler.offer p.envelope p.parsed with
    | .declined => walk suspends p rest
    | .filterFailed message =>
      let (events, status) := walk suspends p rest
      (.reported (.filterFailed r.id p.envelope.update.name message) :: events, status)
    | .accepted argument reaction =>
      if suspends reaction then
        ([.called r.id argument], .suspended reaction.delay ⟨p, r.id, reaction.ending, rest⟩)
      else if reaction.ending.isFinal then ([.called r.id argument], .finished (some r.id))
      else
        let (events, status) := walk suspends p rest
        (.called r.id argument :: (failureEvents p r.id reaction.ending ++ events), status)

/-- Whether a callback takes time. -/
def takesTime (r : Reaction) : Bool := r.delay != 0

/-- Begins a delivery to the handlers of a registry. -/
def begin (registry : Registry) (p : Parcel) : List Event × Status :=
  walk takesTime p registry.toList

/-- Goes on once the callback has ended. -/
def Suspended.resume (s : Suspended) : List Event × Status :=
  if s.ending.isFinal then ([], .finished (some s.handler))
  else
    let (events, status) := walk takesTime s.parcel s.rest
    (failureEvents s.parcel s.handler s.ending ++ events, status)

end Delivery

/-- A whole delivery, whatever time its callbacks take: what can be seen of it, and the
handler that ended it. -/
def Registry.deliver (registry : Registry) (p : Delivery.Parcel) :
    List Delivery.Event × Option HandlerId :=
  match Delivery.walk (fun _ => false) p registry.toList with
  | (events, .finished endedBy) => (events, endedBy)
  | (events, .suspended _ _) => (events, none)

end UpdatePipeline
