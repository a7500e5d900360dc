import UpdatePipeline.Invocation
set_option autoImplicit false

/-!
# Simulation: the script

A script says what a client meets: the server's replies in order, and which accesses
to the store fail.
-/

namespace UpdatePipeline

open Schema (Request InputPeer)

/-- A reply, and how long it is on its way. -/
structure ScriptedReply where
  reply : Reply
  delay : Duration := 0

/-- What a client is going to meet. -/
structure Script where
  /-- The replies not yet given. -/
  replies : List ScriptedReply := []
  /-- An attempt passes over responses of a type it does not expect. -/
  onlyFitting : Bool := false
  /-- The input peer of a marked id. -/
  resolve : Int64 → Except InvocationError InputPeer
  /-- Whether the n-th write fails, counted from 1. -/
  failsWrite : Nat → Bool := fun _ => false
  /-- Whether the n-th listing fails, counted from 1. -/
  failsListing : Nat → Bool := fun _ => false

/-- Whether a reply may be given to a request: an error always, a response if it is of
the type the request promises. -/
def ScriptedReply.suits (r : ScriptedReply) (request : Request) : Bool :=
  match r.reply with
  | .ok response => response.answers request
  | .error _ => true

namespace Script

/-- Nobody answers any more. -/
def silence : ScriptedReply := { reply := .error .dropped }

/-- Takes out the reply to an attempt: the next one, or the next suitable one. -/
def next (s : Script) (request : Request) : ScriptedReply × Script :=
  let isTaken (r : ScriptedReply) : Bool := !s.onlyFitting || r.suits request
  match s.replies.find? isTaken with
  | some r => (r, { s with replies := s.replies.eraseP isTaken })
  | none => (silence, s)

end Script

/-- The store's medium has no room left. -/
def IoError.diskFull : IoError := { message := "disk full" }

/-- The store's medium cannot be read. -/
def IoError.diskUnreadable : IoError := { message := "disk unreadable" }

end UpdatePipeline
