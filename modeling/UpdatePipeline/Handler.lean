import UpdatePipeline.Envelope
import UpdatePipeline.Filter
import UpdatePipeline.Time.Duration
set_option autoImplicit false

/-!
# Handlers

A typed handler takes parsed updates of one kind, possibly only those a filter
accepts; a raw handler takes every envelope.  What its callback does is described by
the time it takes and by how it ends.
-/

namespace UpdatePipeline

/-! ## Callbacks -/

/-- What a callback that ran through asks for. -/
inductive Outcome where
  /-- The update is dealt with: no later handler sees it. -/
  | handled
  /-- As if the handler had not matched. -/
  | skip
  /-- No later handler sees the update. -/
  | abort
  deriving DecidableEq, Repr, Inhabited

/-- How a callback ends. -/
inductive Ending where
  | finished (outcome : Outcome)
  | failed (message : String)
  /-- It panicked, with a message if there is one. -/
  | panicked (message : Option String)
  deriving DecidableEq, Repr, Inhabited

namespace Ending

/-- Whether delivery ends with this callback. -/
def isFinal : Ending → Bool
  | .finished .handled | .finished .abort => true
  | _ => false

/-- What is reported of a callback that did not run through. -/
def failure? : Ending → Option String
  | .finished _ => none
  | .failed message => some message
  | .panicked message => some ("panicked: " ++ message.getD "unknown panic")

end Ending

/-- What a callback does with one argument. -/
structure Reaction where
  delay : Duration := 0
  ending : Ending := .finished .handled
  deriving DecidableEq, Repr, Inhabited

/-! ## Handlers -/

/-- A handler for one kind of parsed update. -/
structure TypedHandler where
  kind : Parsed.Kind
  filter : Option Filter := none
  callback : Parsed.Update → Reaction

namespace TypedHandler

/-- The handler with one more filter, behind those it has. -/
def addFilter (h : TypedHandler) (f : Filter) : TypedHandler :=
  { h with filter := match h.filter with
    | some g => some (g.and f)
    | none => some f }

/-- Whether the handler wants an update. -/
def wants (h : TypedHandler) (u : Parsed.Update) : Except String Bool :=
  if u.kind = h.kind then
    match h.filter with
    | some f => f.check u
    | none => .ok true
  else .ok false

end TypedHandler

/-- A handler. -/
inductive Handler where
  | typed (handler : TypedHandler)
  | raw (callback : Envelope → Reaction)

/-- What a callback is given. -/
inductive Argument where
  | envelope (envelope : Envelope)
  | parsed (update : Parsed.Update)
  deriving Inhabited

/-- A handler's answer to an envelope on offer. -/
inductive Offer where
  | declined
  | filterFailed (message : String)
  | accepted (argument : Argument) (reaction : Reaction)

namespace Handler

/-- Offers an envelope, with its parsed form if it has one. -/
def offer (h : Handler) (envelope : Envelope) (parsed : Option Parsed.Update) : Offer :=
  match h, parsed with
  | .raw callback, _ => .accepted (.envelope envelope) (callback envelope)
  | .typed _, none => .declined
  | .typed h, some u =>
    match h.wants u with
    | .ok true => .accepted (.parsed u) (h.callback u)
    | .ok false => .declined
    | .error message => .filterFailed message

/-- The handler as it is shown. -/
def describe : Handler → String
  | .raw _ => "Raw(RawUpdateHandler)"
  | .typed h =>
    let filtered := if h.filter.isSome then "true" else "false"
    "Update(UpdateHandler \x7b kind: " ++ h.kind.name ++ ", filtered: " ++ filtered ++ " \x7d)"

end Handler

end UpdatePipeline
