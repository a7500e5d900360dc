import Mathlib.Data.List.Basic
import UpdatePipeline.Cache.Indexed
import UpdatePipeline.Proofs.Cache
set_option autoImplicit false

/-!
# The two maps of a cache are its list

Both maps can be read off one ledger, the writes that are still held, the newest first
(`Indexed.Lists`).  So they are inverse to each other (`Indexed.Lists.isPaired`), and a write to
the maps is a write to the list (`Indexed.Lists.set`), however many were evicted before.
-/

namespace UpdatePipeline.Cache.Indexed

variable {κ α : Type}

/-- A write that is still held. -/
structure Held (κ α : Type) where
  number : Nat
  key : κ
  value : α

namespace Held

/-- How the entries of a cache list it. -/
def entry (h : Held κ α) : κ × Nat × α := (h.key, h.number, h.value)

/-- How the order of a cache lists it. -/
def place (h : Held κ α) : Int × κ := (h.number, h.key)

/-- How the list of a cache has it. -/
def pair (h : Held κ α) : κ × α := (h.key, h.value)

end Held

/-- The two maps lead to each other. -/
def IsPaired [BEq κ] (c : Indexed κ α) : Prop :=
  ∀ (number : Nat) (key : κ), c.order.get? number = some key ↔
    ∃ value, c.entries.get? key = some (number, value)

/-- These are the writes that a cache holds, the newest first. -/
structure Lists (c : Indexed κ α) (ledger : List (Held κ α)) : Prop where
  entries : c.entries.pairs.Perm (ledger.map Held.entry)
  order : c.order.entries = ledger.reverse.map Held.place
  numbered : ∀ h ∈ ledger, h.number < c.nextNumber

section Capacity

variable [BEq κ]

@[simp] theorem capacity_remove (c : Indexed κ α) (key : κ) :
    (c.remove key).capacity = c.capacity := by
  unfold remove
  split <;> rfl

@[simp] theorem capacity_evict (c : Indexed κ α) (count : Nat) :
    (c.evict count).capacity = c.capacity := by
  induction count generalizing c with
  | zero => rfl
  | succ count ih =>
    unfold evict
    split
    · rw [ih]
    · rfl

@[simp] theorem capacity_set [LawfulBEq κ] (c : Indexed κ α) (key : κ) (value : α) :
    (c.set key value).capacity = c.capacity := by
  have hinsert : ((c.remove key).insert key value).capacity = c.capacity := capacity_remove c key
  unfold set
  simp only
  split
  · rw [capacity_evict, hinsert]
  · exact hinsert

end Capacity

namespace Lists

variable {c : Indexed κ α} {ledger : List (Held κ α)}

theorem ofCapacity (capacity : Nat) : Lists ({ capacity } : Indexed κ α) [] :=
  ⟨List.Perm.nil, rfl, by simp⟩

theorem size (h : Lists c ledger) : c.size = ledger.length := by
  rw [Indexed.size, AssocMap.size, h.entries.length_eq, List.length_map]

/-- No key is held twice. -/
theorem nodup_keys (h : Lists c ledger) : (ledger.map Held.key).Nodup := by
  have hnodup := (h.entries.map (·.1)).nodup_iff.1 c.entries.nodup
  rwa [List.map_map] at hnodup

/-- The newer a write the higher its number. -/
theorem descending (h : Lists c ledger) : ledger.Pairwise fun a b => b.number < a.number := by
  have hascending := c.order.ascending
  rw [h.order, List.pairwise_map, List.pairwise_reverse] at hascending
  exact hascending.imp fun hlt => Int.ofNat_lt.1 hlt

theorem eq_of_key_eq (h : Lists c ledger) {a b : Held κ α} (ha : a ∈ ledger) (hb : b ∈ ledger)
    (hkey : a.key = b.key) : a = b :=
  List.inj_on_of_nodup_map h.nodup_keys ha hb hkey

theorem eq_of_number_eq (h : Lists c ledger) {a b : Held κ α} (ha : a ∈ ledger) (hb : b ∈ ledger)
    (hnumber : a.number = b.number) : a = b := by
  have hnodup : (ledger.map Held.number).Nodup :=
    List.pairwise_map.2 (h.descending.imp fun hlt => Nat.ne_of_gt hlt)
  exact List.inj_on_of_nodup_map hnodup ha hb hnumber

section Lawful

variable [BEq κ] [LawfulBEq κ]

theorem entries_get?_eq_some_iff (h : Lists c ledger) {key : κ} {number : Nat} {value : α} :
    c.entries.get? key = some (number, value) ↔ ⟨number, key, value⟩ ∈ ledger := by
  rw [AssocMap.get?_eq_some_iff, h.entries.mem_iff, List.mem_map]
  constructor
  · rintro ⟨held, hheld, heq⟩
    cases held
    cases heq
    exact hheld
  · exact fun hheld => ⟨_, hheld, rfl⟩

theorem get?_eq_some_iff (h : Lists c ledger) {key : κ} {value : α} :
    c.get? key = some value ↔ (key, value) ∈ ledger.map Held.pair := by
  rw [Indexed.get?, Option.map_eq_some_iff, List.mem_map]
  constructor
  · rintro ⟨⟨number, value⟩, hget, rfl⟩
    exact ⟨_, h.entries_get?_eq_some_iff.1 hget, rfl⟩
  · rintro ⟨⟨number, key, value⟩, hheld, heq⟩
    cases heq
    exact ⟨_, h.entries_get?_eq_some_iff.2 hheld, rfl⟩

/-- The maps of a cache are inverse to each other. -/
theorem isPaired (h : Lists c ledger) : c.IsPaired := by
  intro number key
  have hnodup : (c.order.entries.map (·.1)).Nodup :=
    List.pairwise_map.2 (c.order.ascending.imp fun hlt => Int.ne_of_lt hlt)
  rw [SortedMap.get?, AssocMap.lookup_eq_some_iff_mem hnodup, h.order, List.mem_map]
  simp only [h.entries_get?_eq_some_iff, List.mem_reverse]
  constructor
  · rintro ⟨held, hheld, heq⟩
    obtain ⟨hnumber, rfl⟩ := Prod.mk.inj heq
    obtain rfl := Int.ofNat_inj.1 hnumber
    exact ⟨held.value, hheld⟩
  · rintro ⟨value, hheld⟩
    exact ⟨_, hheld, rfl⟩

/-! ## One write -/

theorem remove (h : Lists c ledger) (key : κ) :
    Lists (c.remove key) (ledger.filter fun held => !(held.key == key)) := by
  unfold Indexed.remove
  cases hget : c.entries.get? key with
  | none =>
    have hnew : ∀ held ∈ ledger, (!(held.key == key)) = true := by
      rintro ⟨number, other, value⟩ hheld
      have hne : other ≠ key := by
        rintro rfl
        rw [h.entries_get?_eq_some_iff.2 hheld] at hget
        cases hget
      simpa using hne
    rw [List.filter_eq_self.2 hnew]
    exact h
  | some found =>
    obtain ⟨number, value⟩ := found
    have hfound := h.entries_get?_eq_some_iff.1 hget
    constructor
    case entries =>
      have hperm := h.entries.filter fun e => !(e.1 == key)
      rwa [List.filter_map] at hperm
    case order =>
      show c.order.entries.filter (·.1 != (number : Int)) = _
      rw [h.order, List.filter_map, ← List.filter_reverse]
      -- the key and the number of a write name each other
      refine congrArg (List.map _) (List.filter_congr fun held hheld => ?_)
      have hheld := List.mem_reverse.1 hheld
      have hiff : (held.number : Int) = number ↔ held.key = key :=
        ⟨fun hn => congrArg Held.key (h.eq_of_number_eq hheld hfound (Int.ofNat_inj.1 hn)),
          fun hk => congrArg (Int.ofNat ·.number) (h.eq_of_key_eq hheld hfound hk)⟩
      show (!((held.number : Int) == (number : Int))) = !(held.key == key)
      rw [Bool.not_inj_iff, Bool.eq_iff_iff]
      simpa using hiff
    case numbered => exact fun held hheld => h.numbered held (List.mem_filter.1 hheld).1

theorem insert (h : Lists c ledger) {key : κ} (hnew : key ∉ ledger.map Held.key) (value : α) :
    Lists (c.insert key value) (⟨c.nextNumber, key, value⟩ :: ledger) := by
  have hothers : c.entries.others key = c.entries.pairs := by
    refine List.filter_eq_self.2 fun e he => ?_
    obtain ⟨held, hheld, rfl⟩ := List.mem_map.1 (h.entries.mem_iff.1 he)
    have hne : held.key ≠ key := fun heq => hnew (heq ▸ List.mem_map_of_mem hheld)
    simpa [Held.entry] using hne
  constructor
  case entries =>
    show ((key, c.nextNumber, value) :: c.entries.others key).Perm _
    rw [hothers]
    exact h.entries.cons _
  case order =>
    show SortedMap.insertEntry _ _ c.order.entries = _
    have hlast : ∀ e ∈ c.order.entries, e.1 < (c.nextNumber : Int) := by
      rw [h.order]
      intro e he
      obtain ⟨held, hheld, rfl⟩ := List.mem_map.1 he
      exact Int.ofNat_lt.2 (h.numbered held (List.mem_reverse.1 hheld))
    rw [SortedMap.insertEntry_of_forall_lt _ hlast, h.order]
    simp [Held.place]
  case numbered =>
    intro held hheld
    show held.number < c.nextNumber + 1
    rcases List.mem_cons.1 hheld with rfl | hheld
    · exact Nat.lt_succ_self _
    · exact Nat.lt_succ_of_lt (h.numbered held hheld)

/-- The oldest write goes from both maps. -/
theorem pop {oldest : Held κ α} (h : Lists c (ledger ++ [oldest])) :
    ∃ order, c.order.popFirst? = some (oldest.place, order) ∧
      Lists { c with entries := c.entries.erase oldest.key, order } ledger := by
  have horder : c.order.entries = oldest.place :: ledger.reverse.map Held.place := by
    rw [h.order]
    simp
  obtain ⟨order, hpop, hplaces⟩ := SortedMap.popFirst?_of_cons horder
  refine ⟨order, hpop, ?_, hplaces,
    fun held hheld => h.numbered held (List.mem_append_left _ hheld)⟩
  show (c.entries.pairs.filter fun e => !(e.1 == oldest.key)).Perm _
  have hperm := h.entries.filter fun e => !(e.1 == oldest.key)
  have hothers : ledger.filter (fun held => !(held.key == oldest.key)) = ledger := by
    refine List.filter_eq_self.2 fun held hheld => ?_
    have hnodup := h.nodup_keys
    rw [List.map_append, List.nodup_append] at hnodup
    have hne := hnodup.2.2 held.key (List.mem_map_of_mem hheld) oldest.key (by simp)
    simpa using hne
  rw [List.filter_map, List.filter_append, List.map_append] at hperm
  simpa [Function.comp_def, Held.entry, hothers] using hperm

theorem evict (h : Lists c ledger) (count : Nat) :
    Lists (c.evict count) (ledger.take (ledger.length - count)) := by
  induction count generalizing c ledger with
  | zero =>
    rw [Nat.sub_zero, List.take_length]
    exact h
  | succ count ih =>
    rcases List.eq_nil_or_concat ledger with rfl | ⟨newer, oldest, rfl⟩
    · rw [List.take_nil]
      unfold Indexed.evict
      rwa [SortedMap.popFirst?_of_nil h.order]
    · rw [List.concat_eq_append] at h ⊢
      obtain ⟨order, hpop, hrest⟩ := h.pop
      rw [Indexed.evict, hpop]
      have hlength : (newer ++ [oldest]).length - (count + 1) = newer.length - count := by simp
      rw [hlength, List.take_append_of_le_length (Nat.sub_le _ _)]
      exact ih hrest

/-- To write is to remove the key, to write it as the newest, and to evict if there are too many. -/
theorem set (h : Lists c ledger) (key : κ) (value : α) :
    ∃ written : List (Held κ α),
      written.map Held.pair =
        (key, value) :: (ledger.map Held.pair).filter (fun e => !(e.1 == key)) ∧
      Lists (c.set key value) (if written.length > c.capacity then
        written.take (written.length - (c.capacity / 2 + 1)) else written) := by
  have hnew : key ∉ (ledger.filter fun held => !(held.key == key)).map Held.key := by
    intro hmem
    obtain ⟨held, hheld, rfl⟩ := List.mem_map.1 hmem
    simp at hheld
  have hinsert := (h.remove key).insert hnew value
  have hcapacity : ((c.remove key).insert key value).capacity = c.capacity := capacity_remove c key
  refine ⟨⟨(c.remove key).nextNumber, key, value⟩ ::
    ledger.filter fun held => !(held.key == key), ?_, ?_⟩
  · rw [List.filter_map]
    rfl
  have hsize := hinsert.size
  rw [Indexed.size] at hsize
  simp only [Indexed.set, hcapacity, hsize]
  split
  · exact hinsert.evict _
  · exact hinsert

end Lawful

end Lists

/-! ## The list -/

/-- Seen from outside, the two maps are this list. -/
def Simulates (c : Indexed κ α) (list : Cache κ α) : Prop :=
  ∃ ledger, c.Lists ledger ∧ list = ⟨c.capacity, ledger.map Held.pair⟩

namespace Simulates

variable {c : Indexed κ α} {list : Cache κ α}

theorem ofCapacity (capacity : Nat) : Simulates ({ capacity } : Indexed κ α) ⟨capacity, []⟩ :=
  ⟨[], .ofCapacity capacity, rfl⟩

theorem capacity (h : Simulates c list) : c.capacity = list.capacity := by
  obtain ⟨ledger, -, rfl⟩ := h
  rfl

theorem size (h : Simulates c list) : c.size = list.size := by
  obtain ⟨ledger, hledger, rfl⟩ := h
  rw [hledger.size, Cache.size, List.length_map]

variable [BEq κ] [LawfulBEq κ]

theorem isPaired (h : Simulates c list) : c.IsPaired := by
  obtain ⟨ledger, hledger, -⟩ := h
  exact hledger.isPaired

theorem get? (h : Simulates c list) (key : κ) : c.get? key = list.get? key := by
  obtain ⟨ledger, hledger, rfl⟩ := h
  have hnodup : ((ledger.map Held.pair).map (·.1)).Nodup := by
    rw [List.map_map]
    exact hledger.nodup_keys
  ext value
  rw [hledger.get?_eq_some_iff, Cache.get?, AssocMap.lookup_eq_some_iff_mem hnodup]

theorem set (h : Simulates c list) (key : κ) (value : α) :
    Simulates (c.set key value) (list.set key value) := by
  obtain ⟨ledger, hledger, rfl⟩ := h
  obtain ⟨written, hpairs, hwritten⟩ := hledger.set key value
  refine ⟨_, hwritten, ?_⟩
  rw [capacity_set, Cache.set, Cache.written, ← hpairs, List.length_map]
  simp only
  split
  · rw [List.map_take]
  · rfl

end Simulates

/-! ## All writes -/

section Writes

variable [BEq κ] [LawfulBEq κ]

/-- The cache after these writes, one after the other. -/
def writeAll (c : Indexed κ α) (writes : List (κ × α)) : Indexed κ α :=
  writes.foldl (fun c w => c.set w.1 w.2) c

/-- Writes to the two maps are writes to the list. -/
theorem writeAll_simulates {c : Indexed κ α} {list : Cache κ α} (h : Simulates c list)
    (writes : List (κ × α)) : Simulates (c.writeAll writes) (list.writeAll writes) := by
  induction writes generalizing c list with
  | nil => exact h
  | cons w writes ih => exact ih (h.set w.1 w.2)

end Writes

end UpdatePipeline.Cache.Indexed
