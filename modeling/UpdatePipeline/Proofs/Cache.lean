import Mathlib.Data.List.Dedup
import Mathlib.Data.List.Induction
import UpdatePipeline.Cache
set_option autoImplicit false

/-!
# What a cache holds

A cache holds the last writes to so many different keys, the newest first: at most as many as
its capacity and, if there were that many, at least half of it, rounded up (`Cache.holds_writeAll`).
So nothing comes out but what was last written under the key, and that comes out as long as
writes to fewer than half as many other keys have followed.
-/

namespace UpdatePipeline.Cache

variable {κ α : Type} [BEq κ]

/-- The cache after these writes, one after the other. -/
def writeAll (c : Cache κ α) (writes : List (κ × α)) : Cache κ α :=
  writes.foldl (fun c w => c.set w.1 w.2) c

/-- Of these writes, the newest first, the last one to each key. -/
def latest : List (κ × α) → List (κ × α)
  | [] => []
  | w :: earlier => w :: (latest earlier).filter fun e => !(e.1 == w.1)

/-- After these writes, the newest first, the cache holds the last ones to so many keys. -/
structure Holds (writes : List (κ × α)) (c : Cache κ α) : Prop where
  recent : c.entries <+: latest writes
  bounded : c.size ≤ c.capacity
  /-- If there were as many keys at least half of the capacity is in use. -/
  enough : min ((c.capacity + 1) / 2) (latest writes).length ≤ c.size

@[simp] theorem capacity_set (c : Cache κ α) (key : κ) (value : α) :
    (c.set key value).capacity = c.capacity := by
  unfold set
  simp only
  split <;> rfl

@[simp] theorem capacity_writeAll (c : Cache κ α) (writes : List (κ × α)) :
    (c.writeAll writes).capacity = c.capacity := by
  induction writes using List.reverseRecOn with
  | nil => rfl
  | append_singleton writes w ih =>
    rw [writeAll, List.foldl_concat, capacity_set]
    exact ih

/-! ## The last writes -/

theorem latest_cons (w : κ × α) (earlier : List (κ × α)) :
    latest (w :: earlier) = w :: (latest earlier).filter fun e => !(e.1 == w.1) := rfl

/-- Of two spans of time the earlier leaves the keys that the later does not touch. -/
theorem latest_append (later earlier : List (κ × α)) :
    latest (later ++ earlier) =
      latest later ++ (latest earlier).filter fun e => later.all fun w => !(e.1 == w.1) := by
  induction later with
  | nil => simp [latest]
  | cons w later ih =>
    rw [List.cons_append, latest_cons, ih, List.filter_append, List.filter_filter, latest_cons,
      List.cons_append]
    rfl

/-- What is written first of all joins the last writes to other keys. -/
theorem written_isPrefix {writes : List (κ × α)} {c : Cache κ α} (h : c.entries <+: latest writes)
    (key : κ) (value : α) : c.written key value <+: latest ((key, value) :: writes) := by
  unfold written
  rw [latest_cons, List.cons_prefix_cons]
  exact ⟨rfl, h.filter _⟩

theorem entries_set (c : Cache κ α) (key : κ) (value : α) :
    (c.set key value).entries =
      if (c.written key value).length > c.capacity then
        (c.written key value).take ((c.written key value).length - (c.capacity / 2 + 1))
      else c.written key value := by
  unfold set
  simp only
  split <;> rfl

section Lawful

variable [LawfulBEq κ]

theorem lookup_filter_of_ne {key other : κ} (h : key ≠ other) (l : List (κ × α)) :
    (l.filter fun e => !(e.1 == other)).lookup key = l.lookup key := by
  induction l with
  | nil => rfl
  | cons e l ih =>
    by_cases hother : e.1 = other
    · have hkey : (key == e.1) = false := by simpa [hother] using h
      rw [List.filter_cons_of_neg (by simp [hother]), ih, List.lookup_cons, hkey]
    · rw [List.filter_cons_of_pos (by simp [hother]), List.lookup_cons, List.lookup_cons, ih]

/-- Nothing is found under the keys that do not occur. -/
theorem lookup_eq_none_iff_keys {l : List (κ × α)} {key : κ} :
    l.lookup key = none ↔ key ∉ l.map (·.1) := by
  rw [List.lookup_eq_none_iff, List.mem_map]
  simp only [bne_iff_ne, ne_eq, not_exists, not_and]
  exact ⟨fun h e he heq => h e he heq.symm, fun h e he heq => h e he heq.symm⟩

theorem lookup_latest (writes : List (κ × α)) (key : κ) :
    (latest writes).lookup key = writes.lookup key := by
  induction writes with
  | nil => rfl
  | cons w earlier ih =>
    rw [latest_cons, List.lookup_cons, List.lookup_cons]
    cases hkey : key == w.1 with
    | true => rfl
    | false => rw [lookup_filter_of_ne (by simpa using hkey), ih]

theorem mem_keys_latest {writes : List (κ × α)} {key : κ} :
    key ∈ (latest writes).map (·.1) ↔ key ∈ writes.map (·.1) := by
  induction writes with
  | nil => exact Iff.rfl
  | cons w earlier ih =>
    simp only [latest_cons, List.map_cons, List.mem_cons]
    by_cases hkey : key = w.1
    · exact iff_of_true (.inl hkey) (.inl hkey)
    · have hfilter : key ∈ ((latest earlier).filter fun e => !(e.1 == w.1)).map (·.1) ↔
          key ∈ (latest earlier).map (·.1) := by
        simp only [List.mem_map, List.mem_filter]
        constructor
        · rintro ⟨e, ⟨he, -⟩, rfl⟩
          exact ⟨e, he, rfl⟩
        · rintro ⟨e, he, rfl⟩
          exact ⟨e, ⟨he, by simpa using hkey⟩, rfl⟩
      rw [hfilter, ih]

theorem nodup_keys_latest (writes : List (κ × α)) : ((latest writes).map (·.1)).Nodup := by
  induction writes with
  | nil => exact List.nodup_nil
  | cons w earlier ih =>
    rw [latest_cons, List.map_cons, List.nodup_cons]
    constructor
    · intro hmem
      obtain ⟨e, he, hkey⟩ := List.mem_map.1 hmem
      obtain ⟨-, hne⟩ := List.mem_filter.1 he
      simp [hkey] at hne
    · exact ih.sublist (List.filter_sublist.map _)

/-- There are as many last writes as keys. -/
theorem length_latest [DecidableEq κ] (writes : List (κ × α)) :
    (latest writes).length = (writes.map (·.1)).dedup.length := by
  have hperm : ((latest writes).map (·.1)).Perm (writes.map (·.1)).dedup := by
    apply (List.perm_ext_iff_of_nodup (nodup_keys_latest writes) (List.nodup_dedup _)).2
    intro key
    rw [mem_keys_latest, List.mem_dedup]
  rw [← hperm.length_eq, List.length_map]

/-! ## One write -/

/-- To write a key that is held leaves as many entries, and another one more. -/
theorem length_filter_keys {l : List (κ × α)} (h : (l.map (·.1)).Nodup) (key : κ) :
    (l.filter fun e => !(e.1 == key)).length + (if key ∈ l.map (·.1) then 1 else 0) = l.length := by
  induction l with
  | nil => simp
  | cons e l ih =>
    rw [List.map_cons, List.nodup_cons] at h
    obtain ⟨hnew, hrest⟩ := h
    have hlength := ih hrest
    by_cases hkey : e.1 = key
    · subst hkey
      rw [if_neg hnew] at hlength
      simpa using hlength
    · rw [List.filter_cons_of_pos (by simpa using hkey)]
      simp only [List.map_cons, List.mem_cons, Ne.symm hkey, false_or, List.length_cons]
      omega

theorem Holds.set {writes : List (κ × α)} {c : Cache κ α} (h : Holds writes c) (key : κ)
    (value : α) : Holds ((key, value) :: writes) (c.set key value) := by
  have hprefix := written_isPrefix h.recent key value
  have hlength : (c.written key value).length =
      (c.entries.filter fun e => !(e.1 == key)).length + 1 := rfl
  have hall : (latest ((key, value) :: writes)).length =
      ((latest writes).filter fun e => !(e.1 == key)).length + 1 := rfl
  have hnodup := nodup_keys_latest writes
  -- a key that is held is one that was written
  have hheld : key ∈ c.entries.map (·.1) → key ∈ (latest writes).map (·.1) :=
    fun hkey => (h.recent.map (·.1)).subset hkey
  have hentries := length_filter_keys (hnodup.sublist (h.recent.map (·.1)).sublist) key
  have hlatest := length_filter_keys hnodup key
  obtain ⟨-, hbounded, henough⟩ := h
  unfold size at hbounded henough
  constructor
  case recent =>
    rw [entries_set]
    split
    · exact (List.take_prefix _ _).trans hprefix
    · exact hprefix
  case bounded =>
    rw [capacity_set, size, entries_set]
    split
    · rw [List.length_take]
      split at hentries <;> omega
    · omega
  case enough =>
    rw [capacity_set, size, entries_set, hall]
    split
    · rw [List.length_take]
      omega
    · by_cases hkey : key ∈ c.entries.map (·.1)
      · rw [if_pos hkey] at hentries
        rw [if_pos (hheld hkey)] at hlatest
        omega
      · rw [if_neg hkey] at hentries
        split at hlatest <;> omega

/-! ## All writes -/

/-- What a cache holds after all writes, whatever its capacity. -/
theorem holds_writeAll (capacity : Nat) (writes : List (κ × α)) :
    Holds writes.reverse ((⟨capacity, []⟩ : Cache κ α).writeAll writes) := by
  induction writes using List.reverseRecOn with
  | nil => exact ⟨List.prefix_refl _, Nat.zero_le _, Nat.min_le_right _ _⟩
  | append_singleton writes w ih =>
    rw [writeAll, List.foldl_concat, List.reverse_concat]
    exact ih.set w.1 w.2

/-- What comes out was written last under the key. -/
theorem Holds.lookup_of_get? {writes : List (κ × α)} {c : Cache κ α} (h : Holds writes c)
    {key : κ} {value : α} (hget : c.get? key = some value) : writes.lookup key = some value := by
  obtain ⟨rest, hrest⟩ := h.recent
  rw [← lookup_latest, ← hrest, List.lookup_append]
  rw [get?] at hget
  rw [hget]
  rfl

/-- The last writes to the keys written since come before that of a key which is not among them. -/
theorem latest_isPrefix {later : List (κ × α)} {key : κ} (h : key ∉ later.map (·.1)) (value : α)
    (earlier : List (κ × α)) :
    latest later ++ [(key, value)] <+: latest (later ++ (key, value) :: earlier) := by
  have huntouched : (later.all fun w => !(key == w.1)) = true := by
    rw [List.all_eq_true]
    intro w hw
    have hne : key ≠ w.1 := fun heq => h (heq ▸ List.mem_map_of_mem hw)
    simpa using hne
  rw [latest_append, latest_cons, List.filter_cons, if_pos huntouched,
    List.prefix_append_right_inj, List.cons_prefix_cons]
  exact ⟨rfl, List.nil_prefix⟩

/-- What was written comes out if more keys are held than were written since. -/
theorem Holds.get?_of_few [DecidableEq κ] {later earlier : List (κ × α)} {key : κ} {value : α}
    {c : Cache κ α} (h : Holds (later ++ (key, value) :: earlier) c)
    (hlater : key ∉ later.map (·.1)) (hfew : (later.map (·.1)).dedup.length < c.size) :
    c.get? key = some value := by
  have hnone : (latest later).lookup key = none := by
    rw [lookup_latest, lookup_eq_none_iff_keys]
    exact hlater
  -- so many entries are held that this one is among them
  have hlength : (latest later ++ [(key, value)]).length ≤ c.entries.length := by
    rw [List.length_append, length_latest]
    exact hfew
  obtain ⟨rest, hrest⟩ :=
    List.prefix_of_prefix_length_le (latest_isPrefix hlater value earlier) h.recent hlength
  rw [get?, ← hrest, List.lookup_append, List.lookup_append, hnone]
  simp

/-- What was written comes out if not too many other keys were written since. -/
theorem Holds.get?_of_recent [DecidableEq κ] {later earlier : List (κ × α)} {key : κ} {value : α}
    {c : Cache κ α} (h : Holds (later ++ (key, value) :: earlier) c)
    (hlater : key ∉ later.map (·.1))
    (hfew : (later.map (·.1)).dedup.length < (c.capacity + 1) / 2) : c.get? key = some value := by
  have hle := (latest_isPrefix hlater value earlier).length_le
  rw [List.length_append, length_latest, List.length_singleton] at hle
  have henough := h.enough
  exact h.get?_of_few hlater (by omega)

end Lawful

end UpdatePipeline.Cache
