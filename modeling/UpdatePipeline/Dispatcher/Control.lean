import UpdatePipeline.Registry
set_option autoImplicit false

/-!
# The control task

One task owns the registry.  It takes one message after the other, changes its registry,
publishes it to the workers, and only then answers.  What cannot be taken back changes nothing,
and is answered with the error.
-/

namespace UpdatePipeline

namespace Control

/-- Where the control task is with a message. -/
inductive Turn where
  /-- It waits for the next one. -/
  | waiting
  /-- It has changed its registry. -/
  | made (change : Registry.Change)
  /-- It has published it, too. -/
  | published (change : Registry.Change)
  /-- There was nothing to take back. -/
  | refused (error : DispatchError)

/-- The change that has been made and not been answered. -/
def Turn.change? : Turn → Option Registry.Change
  | .made change | .published change => some change
  | .waiting | .refused _ => none

end Control

/-- The control task: its messages, its registry, and how far it is. -/
structure Control where
  mailbox : List Registry.Change := []
  registry : Registry := Registry.empty
  turn : Control.Turn := .waiting

namespace Control

/-- Sends a message. -/
def send (c : Control) (change : Registry.Change) : Control :=
  { c with mailbox := c.mailbox ++ [change] }

/-- The task takes the next message, if it waits for one, and changes its registry. -/
def receive? (c : Control) : Option Control :=
  match c.turn, c.mailbox with
  | .waiting, change :: mailbox =>
    match c.registry.apply change with
    | .ok registry => some { mailbox, registry, turn := .made change }
    | .error e => some { c with mailbox, turn := .refused e }
  | _, _ => none

/-- The task after it has published this change. -/
def publish (c : Control) (change : Registry.Change) : Control :=
  { c with turn := .published change }

/-- The task after it has answered. -/
def answer (c : Control) : Control := { c with turn := .waiting }

end Control

end UpdatePipeline
