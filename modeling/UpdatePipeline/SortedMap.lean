set_option autoImplicit false

/-!
# Sorted maps from integers

Peers, stored records and handler groups are all found by an integer and listed in
its order.  A `SortedMap` is the list of its entries, strictly ascending by key, so
two maps with the same content are equal.
-/

namespace UpdatePipeline

/-- A finite map from integers, as its entries in strictly ascending order. -/
structure SortedMap (α : Type) where
  entries : List (Int × α)
  ascending : entries.Pairwise (fun a b => a.1 < b.1) := by simp
  deriving Repr

namespace SortedMap

variable {α β : Type}

/-- The map without entries. -/
def empty : SortedMap α where
  entries := []

instance : EmptyCollection (SortedMap α) := ⟨empty⟩
instance : Inhabited (SortedMap α) := ⟨empty⟩

theorem ext {m n : SortedMap α} (h : m.entries = n.entries) : m = n := by
  cases m; cases n; cases h; rfl

/-! ## On lists of entries -/

/-- Puts an entry in its place, over the one with the same key. -/
def insertEntry (key : Int) (value : α) : List (Int × α) → List (Int × α)
  | [] => [(key, value)]
  | e :: rest =>
    if key < e.1 then (key, value) :: e :: rest
    else if key = e.1 then (key, value) :: rest
    else e :: insertEntry key value rest

theorem mem_insertEntry {key : Int} {value : α} {e : Int × α} {l : List (Int × α)}
    (h : e ∈ insertEntry key value l) : e = (key, value) ∨ e ∈ l := by
  induction l with
  | nil => simpa [insertEntry] using h
  | cons d rest ih =>
    rw [insertEntry] at h
    split at h
    · simpa using h
    · split at h
      · rcases List.mem_cons.1 h with rfl | hm
        · exact .inl rfl
        · exact .inr (List.mem_cons_of_mem _ hm)
      · rcases List.mem_cons.1 h with rfl | hm
        · exact .inr List.mem_cons_self
        · exact (ih hm).imp id (List.mem_cons_of_mem _)

theorem ascending_insertEntry (key : Int) (value : α) {l : List (Int × α)}
    (h : l.Pairwise (fun a b => a.1 < b.1)) :
    (insertEntry key value l).Pairwise (fun a b => a.1 < b.1) := by
  induction l with
  | nil => simp [insertEntry]
  | cons d rest ih =>
    obtain ⟨hd, hrest⟩ := List.pairwise_cons.1 h
    rw [insertEntry]
    split
    · rename_i hlt
      refine List.pairwise_cons.2 ⟨fun a ha => ?_, h⟩
      rcases List.mem_cons.1 ha with rfl | ha
      · exact hlt
      · exact Int.lt_trans hlt (hd a ha)
    · split
      · rename_i heq
        exact List.pairwise_cons.2 ⟨fun a ha => heq ▸ hd a ha, hrest⟩
      · rename_i hlt hne
        refine List.pairwise_cons.2 ⟨fun a ha => ?_, ih hrest⟩
        rcases mem_insertEntry ha with rfl | ha
        · show d.1 < key
          omega
        · exact hd a ha

/-- What has a higher key than all entries comes behind them. -/
theorem insertEntry_of_forall_lt {key : Int} (value : α) {l : List (Int × α)}
    (h : ∀ e ∈ l, e.1 < key) : insertEntry key value l = l ++ [(key, value)] := by
  induction l with
  | nil => rfl
  | cons d rest ih =>
    obtain ⟨hd, hrest⟩ := List.forall_mem_cons.1 h
    have hnot : ¬ key < d.1 := by omega
    have hne : key ≠ d.1 := by omega
    rw [insertEntry, if_neg hnot, if_neg hne, ih hrest]
    rfl

/-! ## Operations -/

/-- The value under a key. -/
def get? (m : SortedMap α) (key : Int) : Option α := m.entries.lookup key

/-- The map with `value` under `key`, whatever was there before. -/
def insert (m : SortedMap α) (key : Int) (value : α) : SortedMap α where
  entries := insertEntry key value m.entries
  ascending := ascending_insertEntry key value m.ascending

/-- The map with nothing under `key`. -/
def erase (m : SortedMap α) (key : Int) : SortedMap α where
  entries := m.entries.filter (·.1 != key)
  ascending := m.ascending.filter _

/-- The entry with the least key, and the map without it. -/
def popFirst? : SortedMap α → Option ((Int × α) × SortedMap α)
  | ⟨[], _⟩ => none
  | ⟨e :: rest, ascending⟩ => some (e, ⟨rest, (List.pairwise_cons.1 ascending).2⟩)

/-- The keys, ascending. -/
def keys (m : SortedMap α) : List Int := m.entries.map (·.1)

/-- The values in the order of their keys. -/
def values (m : SortedMap α) : List α := m.entries.map (·.2)

/-- The number of entries. -/
def size (m : SortedMap α) : Nat := m.entries.length

/-- The map with all of these values put in, one after the other. -/
def insertAll (m : SortedMap α) (key : α → Int) (values : List α) : SortedMap α :=
  values.foldl (fun m a => m.insert (key a) a) m

/-! ## What a look-up finds -/

theorem lookup_cons (k : Int) (d : Int × α) (rest : List (Int × α)) :
    (d :: rest).lookup k = if k = d.1 then some d.2 else rest.lookup k := by
  rw [List.lookup_cons]
  by_cases h : k = d.1
  · simp [h]
  · simp [h, beq_eq_false_iff_ne.2 h]

theorem lookup_insertEntry (key k : Int) (value : α) (l : List (Int × α)) :
    (insertEntry key value l).lookup k = if k = key then some value else l.lookup k := by
  induction l with
  | nil => simp [insertEntry, lookup_cons]
  | cons d rest ih =>
    rw [insertEntry]
    split
    · simp [lookup_cons]
    · split
      · rename_i heq
        by_cases h : k = key <;> simp [lookup_cons, h, ← heq]
      · rename_i hne
        simp only [lookup_cons, ih]
        by_cases hk : k = key
        · simp [hk, hne]
        · simp [hk]

theorem popFirst?_of_nil {m : SortedMap α} (h : m.entries = []) : m.popFirst? = none := by
  obtain ⟨entries, ascending⟩ := m
  cases h
  rfl

theorem popFirst?_of_cons {m : SortedMap α} {e : Int × α} {rest : List (Int × α)}
    (h : m.entries = e :: rest) : ∃ n, m.popFirst? = some (e, n) ∧ n.entries = rest := by
  obtain ⟨entries, ascending⟩ := m
  cases h
  exact ⟨_, rfl, rfl⟩

@[simp] theorem get?_empty (key : Int) : (empty : SortedMap α).get? key = none := rfl

theorem get?_insert (m : SortedMap α) (key k : Int) (value : α) :
    (m.insert key value).get? k = if k = key then some value else m.get? k :=
  lookup_insertEntry key k value m.entries

theorem get?_erase (m : SortedMap α) (key k : Int) :
    (m.erase key).get? k = if k = key then none else m.get? k := by
  obtain ⟨l, h⟩ := m
  simp only [erase, get?]
  clear h
  induction l with
  | nil => simp [List.lookup_nil]
  | cons d rest ih =>
    by_cases hd : d.1 = key
    · rw [List.filter_cons_of_neg (by simpa using hd), ih, lookup_cons]
      by_cases hk : k = key <;> simp [hk, hd]
    · rw [List.filter_cons_of_pos (by simpa using hd), lookup_cons, lookup_cons, ih]
      by_cases hk : k = key
      · simp [hk, Ne.symm hd]
      · simp [hk]

end SortedMap

end UpdatePipeline
