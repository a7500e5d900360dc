import UpdatePipeline.Error
import UpdatePipeline.Handler
set_option autoImplicit false

/-!
# The registry of handlers

Handlers are registered in numbered groups.  They are tried in ascending order of the
groups, and inside a group in the order of their registration.  A group stays, even
empty, until the registry is cleared.
-/

namespace UpdatePipeline

/-- A handler under the id of its registration. -/
structure Registration where
  id : HandlerId
  handler : Handler

/-- All registrations, by group. -/
structure Registry where
  groups : SortedMap (List Registration) := ∅
  deriving Inhabited

namespace Registry

/-- No registrations. -/
def empty : Registry := {}

/-- The registrations in the order in which they are tried. -/
def toList (r : Registry) : List Registration := r.groups.values.flatten

/-- The groups, ascending. -/
def groupNumbers (r : Registry) : List Int := r.groups.keys

/-- The registrations of a group, if anything was ever put there. -/
def group? (r : Registry) (group : Int32) : Option (List Registration) := r.groups.get? group.toInt

/-- The registry with a group replaced. -/
def setGroup (r : Registry) (group : Int32) (members : List Registration) : Registry where
  groups := r.groups.insert group.toInt members

/-- One more registration at the end of a group. -/
def add (r : Registry) (id : HandlerId) (handler : Handler) (group : Int32) : Registry :=
  r.setGroup group ((r.group? group).getD [] ++ [⟨id, handler⟩])

/-- The registry without one registration of a group. -/
def remove (r : Registry) (id : HandlerId) (group : Int32) : Except DispatchError Registry :=
  match r.group? group with
  | none => .error (.unknownGroup group)
  | some members =>
    if members.any (·.id == id) then .ok (r.setGroup group (members.eraseP (·.id == id)))
    else .error (.unknownHandler id)

/-- A change to the registrations. -/
inductive Change where
  | add (id : HandlerId) (handler : Handler) (group : Int32)
  /-- A registration is taken back. -/
  | remove (id : HandlerId) (group : Int32)
  /-- All registrations go. -/
  | clear

/-- The registry after a change, unless that takes back what is not registered. -/
def apply (r : Registry) : Change → Except DispatchError Registry
  | .add id handler group => .ok (r.add id handler group)
  | .remove id group => r.remove id group
  | .clear => .ok empty

end Registry

end UpdatePipeline
