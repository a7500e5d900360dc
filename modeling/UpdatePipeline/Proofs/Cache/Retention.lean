import UpdatePipeline.Proofs.Cache.Indexed
set_option autoImplicit false

/-!
# Which keys a cache retains

After any calls a cache retains the keys written last, a certain number of them, each with what
was last written under it (`Retains`).  That number is at most the capacity, and at least half of
it, rounded up, once so many keys were written; a key that is retained can be written again
without changing it, and another one adds to it, unless the cache is full: then the number falls
to half of the capacity (`performAll_retains`).  Reading has no part in this.  It is shown of the
list first and holds of the two maps because they simulate it.
-/

namespace UpdatePipeline.Cache

variable {κ α : Type} [BEq κ] [LawfulBEq κ]

/-! ## The list -/

theorem get?_eq_none_iff {c : Cache κ α} {key : κ} :
    c.get? key = none ↔ key ∉ c.entries.map (·.1) :=
  lookup_eq_none_iff_keys

theorem isSome_get?_iff {c : Cache κ α} {key : κ} :
    (c.get? key).isSome ↔ key ∈ c.entries.map (·.1) := by
  rw [Option.isSome_iff_ne_none, ne_eq, get?_eq_none_iff, not_not]

/-- No key is held twice. -/
theorem Holds.nodup_keys {writes : List (κ × α)} {c : Cache κ α} (h : Holds writes c) :
    (c.entries.map (·.1)).Nodup :=
  (nodup_keys_latest writes).sublist (h.recent.map (·.1)).sublist

/-! ### The number of entries -/

/-- There is room for a key that is held already. -/
theorem Holds.size_set_of_held {writes : List (κ × α)} {c : Cache κ α} (h : Holds writes c)
    {key : κ} (hheld : (c.get? key).isSome) (value : α) : (c.set key value).size = c.size := by
  have hlength := length_filter_keys h.nodup_keys key
  have hbounded := h.bounded
  rw [if_pos (isSome_get?_iff.1 hheld)] at hlength
  unfold size at hbounded
  have hwritten : (c.written key value).length = c.entries.length := hlength
  rw [size, size, entries_set, hwritten, if_neg (Nat.not_lt.2 hbounded), hwritten]

/-- Another key takes the place of the older half if there is no room for it. -/
theorem Holds.size_set_of_other {writes : List (κ × α)} {c : Cache κ α} (h : Holds writes c)
    {key : κ} (hother : c.get? key = none) (value : α) :
    (c.set key value).size = if c.size = c.capacity then (c.capacity + 1) / 2 else c.size + 1 := by
  have hlength := length_filter_keys h.nodup_keys key
  have hbounded := h.bounded
  rw [if_neg (get?_eq_none_iff.1 hother), Nat.add_zero] at hlength
  unfold size at hbounded
  have hwritten : (c.written key value).length = c.entries.length + 1 := congrArg (· + 1) hlength
  rw [size, size, entries_set, hwritten]
  by_cases hfull : c.entries.length = c.capacity
  · rw [if_pos hfull, if_pos (by omega), List.length_take, hwritten]
    omega
  · rw [if_neg hfull, if_neg (by omega), hwritten]

/-! ### The keys -/

/-- What comes out was written last under its key, and fewer others since then than are held. -/
theorem Holds.get?_eq_some_iff [DecidableEq κ] {writes : List (κ × α)} {c : Cache κ α}
    (h : Holds writes c) (key : κ) (value : α) :
    c.get? key = some value ↔ ∃ later earlier, writes = later ++ (key, value) :: earlier ∧
      key ∉ later.map (·.1) ∧ (later.map (·.1)).dedup.length < c.size := by
  constructor
  · intro hget
    obtain ⟨later, earlier, rfl, hne⟩ := List.lookup_eq_some_iff.1 (h.lookup_of_get? hget)
    have hlater : key ∉ later.map (·.1) := by
      intro hmem
      obtain ⟨w, hw, rfl⟩ := List.mem_map.1 hmem
      simpa using hne w hw
    refine ⟨later, earlier, rfl, hlater, ?_⟩
    -- otherwise all that is held was written since then
    by_contra hmany
    have hlength : c.entries.length ≤ (latest later).length := by
      rw [length_latest]
      exact Nat.not_lt.1 hmany
    have hsince : latest later <+: latest (later ++ (key, value) :: earlier) :=
      (List.prefix_append _ _).trans (latest_isPrefix hlater value earlier)
    have hentries := List.prefix_of_prefix_length_le h.recent hsince hlength
    have hkey : key ∈ c.entries.map (·.1) := isSome_get?_iff.1 (by rw [hget, Option.isSome_some])
    exact hlater (mem_keys_latest.1 ((hentries.map (·.1)).subset hkey))
  · rintro ⟨later, earlier, rfl, hlater, hfew⟩
    exact h.get?_of_few hlater hfew

/-! ## The two maps -/

namespace Indexed

/-- A call of a cache. -/
inductive Call (κ α : Type) where
  | set (key : κ) (value : α)
  | get (key : κ)

/-- What a call writes, if it writes. -/
def Call.write? : Call κ α → Option (κ × α)
  | .set key value => some (key, value)
  | .get _ => none

/-- The cache after a call, and what the call gives back. -/
def perform (c : Indexed κ α) : Call κ α → Indexed κ α × Option α
  | .set key value => (c.set key value, none)
  | .get key => (c, c.get? key)

/-- The cache after these calls, one after the other. -/
def performAll (c : Indexed κ α) (calls : List (Call κ α)) : Indexed κ α :=
  calls.foldl (fun c call => (c.perform call).1) c

/-- What these calls write, in order. -/
def writesOf (calls : List (Call κ α)) : List (κ × α) := calls.filterMap Call.write?

/-- After these writes, the newest first, a cache retains the `count` keys written last. -/
structure Retains [DecidableEq κ] (writes : List (κ × α)) (count : Nat) (c : Indexed κ α) :
    Prop where
  /-- What comes out was written last under its key, and fewer than `count` others since then. -/
  get?_iff : ∀ key value, c.get? key = some value ↔ ∃ later earlier,
    writes = later ++ (key, value) :: earlier ∧ key ∉ later.map (·.1) ∧
      (later.map (·.1)).dedup.length < count
  size : c.size = count
  isEmpty : c.isEmpty ↔ count = 0
  bounded : count ≤ c.capacity
  /-- So many keys were written. -/
  written : count ≤ (writes.map (·.1)).dedup.length
  enough : min ((c.capacity + 1) / 2) (writes.map (·.1)).dedup.length ≤ count
  held : ∀ key value, (c.get? key).isSome → (c.set key value).size = count
  other : ∀ key value, c.get? key = none →
    (c.set key value).size = if count = c.capacity then (c.capacity + 1) / 2 else count + 1

/-- Only what is written makes a difference to a cache. -/
theorem performAll_eq (c : Indexed κ α) (calls : List (Call κ α)) :
    c.performAll calls = c.writeAll (writesOf calls) := by
  induction calls generalizing c with
  | nil => rfl
  | cons call calls ih =>
    cases call with
    | set key value => exact ih (c.set key value)
    | get key => exact ih c

omit [BEq κ] [LawfulBEq κ] in
theorem isEmpty_iff {c : Indexed κ α} : c.isEmpty ↔ c.size = 0 := by
  rw [isEmpty, AssocMap.isEmpty, List.isEmpty_iff, size, AssocMap.size, List.length_eq_zero_iff]

/-- The two maps retain what the list holds. -/
theorem Simulates.retains [DecidableEq κ] {writes : List (κ × α)} {c : Indexed κ α}
    {list : Cache κ α} (hsim : Simulates c list) (h : Holds writes list) :
    Retains writes c.size c where
  get?_iff key value := by
    rw [hsim.get?, hsim.size]
    exact h.get?_eq_some_iff key value
  size := rfl
  isEmpty := isEmpty_iff
  bounded := by
    rw [hsim.size, hsim.capacity]
    exact h.bounded
  written := by
    rw [hsim.size, ← length_latest]
    exact h.recent.length_le
  enough := by
    rw [hsim.size, hsim.capacity, ← length_latest]
    exact h.enough
  held key value hheld := by
    rw [hsim.get?] at hheld
    rw [(hsim.set key value).size, hsim.size]
    exact h.size_set_of_held hheld value
  other key value hother := by
    rw [hsim.get?] at hother
    rw [(hsim.set key value).size, hsim.size, hsim.capacity]
    exact h.size_set_of_other hother value

/-- Whatever its capacity is and whatever is written to it and read from it, a cache retains the
keys written last, so many of them as `Retains` says; its two maps stay inverse to each other, and
reading does not change it. -/
theorem performAll_retains [DecidableEq κ] (capacity : Nat) (calls : List (Call κ α)) :
    let c := ({ capacity } : Indexed κ α).performAll calls
    (∃ count, Retains (writesOf calls).reverse count c) ∧ c.capacity = capacity ∧ c.IsPaired ∧
      c = ({ capacity } : Indexed κ α).writeAll (writesOf calls) ∧
      ∀ key, c.perform (.get key) = (c, c.get? key) := by
  intro c
  have hc : c = ({ capacity } : Indexed κ α).writeAll (writesOf calls) := performAll_eq _ calls
  have hsim := writeAll_simulates (.ofCapacity capacity) (writesOf calls)
  rw [← hc] at hsim
  refine ⟨⟨c.size, hsim.retains (holds_writeAll capacity (writesOf calls))⟩, ?_, hsim.isPaired, hc,
    fun key => rfl⟩
  rw [hsim.capacity, capacity_writeAll]

/-- The oldest key is written again and read, so the next three go. -/
def fullAndOneMore : List (Call Nat String) :=
  [.set 0 "a", .set 1 "b", .set 2 "c", .set 3 "d", .set 0 "e", .get 1, .set 4 "f"]

theorem performAll_retains_fullAndOneMore :
    Retains [(4, "f"), (0, "e"), (3, "d"), (2, "c"), (1, "b"), (0, "a")] 2
      (({ capacity := 4 } : Indexed Nat String).performAll fullAndOneMore) := by
  obtain ⟨⟨count, hretains⟩, -⟩ := performAll_retains 4 fullAndOneMore
  obtain rfl : 2 = count := hretains.size
  exact hretains

end Indexed

end UpdatePipeline.Cache
