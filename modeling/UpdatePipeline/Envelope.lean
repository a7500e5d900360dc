import UpdatePipeline.Schema.Difference
import UpdatePipeline.SortedMap
set_option autoImplicit false

/-!
# Envelopes

An update travels with the users and chats that arrived with it.  Both directories
go by the bare id, and of two records with one id the later stands.
-/

namespace UpdatePipeline

open Schema

/-- The peers that accompany an update. -/
structure Peers where
  users : SortedMap User := ∅
  chats : SortedMap Chat := ∅
  deriving Inhabited

namespace Peers

/-- No peers. -/
def none : Peers := {}

/-- These peers, over those already there. -/
def extend (p : Peers) (users : List User) (chats : List Chat) : Peers where
  users := p.users.insertAll (·.id.toInt) users
  chats := p.chats.insertAll (·.id.toInt) chats

/-- The peers that arrived together. -/
def ofLists (users : List User) (chats : List Chat) : Peers := none.extend users chats

/-- The user with a bare id. -/
def user? (p : Peers) (id : Int64) : Option User := p.users.get? id.toInt

/-- The chat with a bare id. -/
def chat? (p : Peers) (id : Int64) : Option Chat := p.chats.get? id.toInt

end Peers

/-- An update on its way to the handlers. -/
structure Envelope where
  update : Update
  peers : Peers := Peers.none
  deriving Inhabited

end UpdatePipeline
