set_option autoImplicit false

/-!
# A bounded cache, as a list

Writing a key makes it the newest; reading changes nothing.  Once there are more
entries than the capacity, the oldest `capacity / 2 + 1` go at once, so that
evictions are rare.  A cache that need not search the list is `Cache.Indexed`.
-/

namespace UpdatePipeline

/-- A store of at most `capacity` entries. -/
structure Cache (κ α : Type) where
  capacity : Nat
  /-- The entries, the newest first. -/
  entries : List (κ × α) := []
  deriving Repr

namespace Cache

variable {κ α : Type} [BEq κ]

/-- The value under a key. -/
def get? (c : Cache κ α) (key : κ) : Option α := c.entries.lookup key

/-- The number of entries. -/
def size (c : Cache κ α) : Nat := c.entries.length

/-- Whether there are no entries. -/
def isEmpty (c : Cache κ α) : Bool := c.entries.isEmpty

/-- The entries with one more written, before any go. -/
def written (c : Cache κ α) (key : κ) (value : α) : List (κ × α) :=
  (key, value) :: c.entries.filter (fun e => !(e.1 == key))

/-- The cache after a write. -/
def set (c : Cache κ α) (key : κ) (value : α) : Cache κ α :=
  let entries := c.written key value
  if entries.length > c.capacity then
    { c with entries := entries.take (entries.length - (c.capacity / 2 + 1)) }
  else { c with entries }

end Cache

end UpdatePipeline
