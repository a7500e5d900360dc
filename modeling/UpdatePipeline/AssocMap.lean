set_option autoImplicit false

/-!
# Maps in no particular order

An `AssocMap` is found by any keys that can be compared.  It lists its pairs, no key twice; their
order means nothing.
-/

namespace UpdatePipeline

/-- A finite map, as its pairs in no particular order. -/
structure AssocMap (κ α : Type) where
  pairs : List (κ × α)
  nodup : (pairs.map (·.1)).Nodup := by simp
  deriving Repr

namespace AssocMap

variable {κ α : Type}

/-- The map without pairs. -/
def empty : AssocMap κ α where
  pairs := []

instance : EmptyCollection (AssocMap κ α) := ⟨empty⟩

/-- The number of pairs. -/
def size (m : AssocMap κ α) : Nat := m.pairs.length

/-- Whether there are no pairs. -/
def isEmpty (m : AssocMap κ α) : Bool := m.pairs.isEmpty

variable [BEq κ]

/-- The value under a key. -/
def get? (m : AssocMap κ α) (key : κ) : Option α := m.pairs.lookup key

/-- The pairs of the other keys. -/
def others (m : AssocMap κ α) (key : κ) : List (κ × α) := m.pairs.filter fun e => !(e.1 == key)

theorem nodup_others (m : AssocMap κ α) (key : κ) : ((m.others key).map (·.1)).Nodup :=
  m.nodup.sublist (List.filter_sublist.map _)

/-- The map with nothing under `key`. -/
def erase (m : AssocMap κ α) (key : κ) : AssocMap κ α where
  pairs := m.others key
  nodup := m.nodup_others key

variable [LawfulBEq κ]

theorem key_not_mem_others (m : AssocMap κ α) (key : κ) : key ∉ (m.others key).map (·.1) := by
  intro hmem
  obtain ⟨e, he, hkey⟩ := List.mem_map.1 hmem
  have hne := (List.mem_filter.1 he).2
  simp [hkey] at hne

/-- The map with `value` under `key`, whatever was there before. -/
def insert (m : AssocMap κ α) (key : κ) (value : α) : AssocMap κ α where
  pairs := (key, value) :: m.others key
  nodup := List.nodup_cons.2 ⟨m.key_not_mem_others key, m.nodup_others key⟩

/-- A key that comes once stands for its pair. -/
theorem lookup_eq_some_iff_mem {l : List (κ × α)} (h : (l.map (·.1)).Nodup) {key : κ} {value : α} :
    l.lookup key = some value ↔ (key, value) ∈ l := by
  induction l with
  | nil => simp
  | cons e rest ih =>
    obtain ⟨other, held⟩ := e
    obtain ⟨hnew, hrest⟩ := List.nodup_cons.1 h
    by_cases hkey : key = other
    · subst hkey
      have hnot : (key, value) ∉ rest := fun hmem => hnew (List.mem_map.2 ⟨_, hmem, rfl⟩)
      simp [hnot, eq_comm]
    · simp [List.lookup_cons, beq_eq_false_iff_ne.2 hkey, hkey, ih hrest]

@[simp] theorem get?_insert_self (m : AssocMap κ α) (key : κ) (value : α) :
    (m.insert key value).get? key = some value := by
  simp [get?, insert]

theorem get?_eq_some_iff {m : AssocMap κ α} {key : κ} {value : α} :
    m.get? key = some value ↔ (key, value) ∈ m.pairs :=
  lookup_eq_some_iff_mem m.nodup

end AssocMap

end UpdatePipeline
