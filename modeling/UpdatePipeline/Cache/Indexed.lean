import UpdatePipeline.AssocMap
import UpdatePipeline.Cache
import UpdatePipeline.SortedMap
set_option autoImplicit false

/-!
# A bounded cache with two maps

Every write is given a number.  One map leads from a key to its number and its value, the other
from the numbers back to the keys, so that its first entry is the oldest.  Seen from outside it is
the list of its entries, a `Cache`.
-/

namespace UpdatePipeline.Cache

/-- A store of at most `capacity` entries that finds both a key and the oldest key. -/
structure Indexed (κ α : Type) where
  capacity : Nat
  /-- By key: the number of its last write, and the value. -/
  entries : AssocMap κ (Nat × α) := ∅
  /-- By number of the write: the key. -/
  order : SortedMap κ := ∅
  /-- How many writes there were.  It would take centuries to fill 64 bits. -/
  nextNumber : Nat := 0
  deriving Repr

namespace Indexed

variable {κ α : Type}

/-- The number of entries. -/
def size (c : Indexed κ α) : Nat := c.entries.size

/-- Whether there are no entries. -/
def isEmpty (c : Indexed κ α) : Bool := c.entries.isEmpty

variable [BEq κ]

/-- The value under a key. -/
def get? (c : Indexed κ α) (key : κ) : Option α := (c.entries.get? key).map (·.2)

/-- The cache without a key, in both maps. -/
def remove (c : Indexed κ α) (key : κ) : Indexed κ α :=
  match c.entries.get? key with
  | some (number, _) =>
    { c with entries := c.entries.erase key, order := c.order.erase number }
  | none => c

/-- The cache without the oldest `count` keys, or with none if there are not so many. -/
def evict (c : Indexed κ α) : Nat → Indexed κ α
  | 0 => c
  | count + 1 =>
    match c.order.popFirst? with
    | some ((_, key), order) => evict { c with entries := c.entries.erase key, order } count
    | none => c

variable [LawfulBEq κ]

/-- The cache with one more write in both maps. -/
def insert (c : Indexed κ α) (key : κ) (value : α) : Indexed κ α :=
  { c with
    entries := c.entries.insert key (c.nextNumber, value)
    order := c.order.insert c.nextNumber key
    nextNumber := c.nextNumber + 1 }

/-- The cache after a write. -/
def set (c : Indexed κ α) (key : κ) (value : α) : Indexed κ α :=
  let c := (c.remove key).insert key value
  if c.entries.size > c.capacity then c.evict (c.capacity / 2 + 1) else c

end Indexed

end UpdatePipeline.Cache
