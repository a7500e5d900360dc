import UpdatePipeline.Registry
set_option autoImplicit false

/-!
# The order of the registrations

The registrations are tried group by group, and a new one takes its place behind all of its
own group and of lower ones, before all of higher ones (`Registry.inOrder`).  So within a group
they are tried in the order in which they were made, and taking one away leaves the others
where they are.
-/

namespace UpdatePipeline

/-- What is put in stands between the lower and the higher keys, in the place of what stood
under its own key. -/
theorem SortedMap.entries_insert {α : Type} (m : SortedMap α) (key : Int) (value : α) :
    ∃ lower higher,
      (∀ e ∈ lower, e.1 < key) ∧ (∀ e ∈ higher, key < e.1) ∧
      m.entries = lower ++ ((m.get? key).map (key, ·)).toList ++ higher ∧
      (m.insert key value).entries = lower ++ (key, value) :: higher := by
  obtain ⟨l, hl⟩ := m
  unfold get? insert
  induction l with
  | nil => exact ⟨[], [], nofun, nofun, rfl, rfl⟩
  | cons d rest ih =>
    obtain ⟨hd, hrest⟩ := List.pairwise_cons.1 hl
    simp only [insertEntry, lookup_cons]
    by_cases hlt : key < d.1
    · have hhigher : ∀ e ∈ d :: rest, key < e.1 := by
        intro e he
        rcases List.mem_cons.1 he with rfl | he
        · exact hlt
        · exact Int.lt_trans hlt (hd e he)
      have hnone : rest.lookup key = none := by
        rw [List.lookup_eq_none_iff]
        intro e he
        have hne := hhigher e (List.mem_cons_of_mem d he)
        simp only [bne_iff_ne, ne_eq]
        omega
      have hne : key ≠ d.1 := by omega
      rw [if_pos hlt, if_neg hne, hnone]
      exact ⟨[], d :: rest, nofun, hhigher, rfl, rfl⟩
    · rw [if_neg hlt]
      by_cases heq : key = d.1
      · subst heq
        simp only [if_true]
        exact ⟨[], rest, nofun, hd, rfl, rfl⟩
      · rw [if_neg heq, if_neg heq]
        obtain ⟨lower, higher, hlower, hhigher, hold, hnew⟩ := ih hrest
        refine ⟨d :: lower, higher, ?_, hhigher, ?_, ?_⟩
        · intro e he
          rcases List.mem_cons.1 he with rfl | he
          · omega
          · exact hlower e he
        · simp only [List.cons_append, ← hold]
        · simp only [List.cons_append, ← hnew]

namespace Registry

/-- The registrations of these groups, each with the number of its group. -/
def numbered (groups : List (Int × List Registration)) : List (Int × Registration) :=
  groups.flatMap fun e => e.2.map (e.1, ·)

theorem exists_of_mem_numbered {groups : List (Int × List Registration)} {x : Int × Registration}
    (h : x ∈ numbered groups) : ∃ e ∈ groups, x.1 = e.1 := by
  obtain ⟨e, he, hx⟩ := List.mem_flatMap.1 h
  obtain ⟨_, -, rfl⟩ := List.mem_map.1 hx
  exact ⟨e, he, rfl⟩

/-- The registrations in the order in which they are tried, with the numbers of their groups. -/
def placed (r : Registry) : List (Int × Registration) := numbered r.groups.entries

theorem map_placed (r : Registry) : r.placed.map (·.2) = r.toList := by
  simp [placed, numbered, toList, SortedMap.values, List.flatMap_def, Function.comp_def]

theorem ascending_placed (r : Registry) : r.placed.Pairwise fun a b => a.1 ≤ b.1 := by
  unfold placed numbered
  rw [List.pairwise_flatMap]
  constructor
  case left =>
    intro e _
    simp [List.pairwise_map, List.pairwise_of_forall]
  case right =>
    refine r.groups.ascending.imp fun {a b} hlt => ?_
    intro x hx y hy
    obtain ⟨_, -, rfl⟩ := List.mem_map.1 hx
    obtain ⟨_, -, rfl⟩ := List.mem_map.1 hy
    exact Int.le_of_lt hlt

/-- A group that is replaced keeps its place between the lower and the higher ones. -/
theorem placed_setGroup (r : Registry) (group : Int32) (members : List Registration) :
    ∃ lower higher,
      (∀ e ∈ lower, e.1 < group.toInt) ∧ (∀ e ∈ higher, group.toInt < e.1) ∧
      r.placed = lower ++ ((r.group? group).getD []).map (group.toInt, ·) ++ higher ∧
      (r.setGroup group members).placed = lower ++ members.map (group.toInt, ·) ++ higher := by
  obtain ⟨lower, higher, hlower, hhigher, hold, hnew⟩ :=
    r.groups.entries_insert group.toInt members
  refine ⟨numbered lower, numbered higher, ?_, ?_, ?_, ?_⟩
  · intro x hx
    obtain ⟨e, he, hxe⟩ := exists_of_mem_numbered hx
    rw [hxe]
    exact hlower e he
  · intro x hx
    obtain ⟨e, he, hxe⟩ := exists_of_mem_numbered hx
    rw [hxe]
    exact hhigher e he
  · unfold placed group? numbered
    rw [hold]
    cases r.groups.get? group.toInt with
    | none => simp
    | some old => simp
  · unfold placed setGroup numbered
    rw [hnew]
    simp

/-- What the order of the registrations is, and what a registration and its removal do to it. -/
structure InOrder (r : Registry) : Prop where
  all : r.placed.map (·.2) = r.toList
  /-- Lower groups come first. -/
  ascending : r.placed.Pairwise fun a b => a.1 ≤ b.1
  /-- A new registration comes behind those of its group, and the others stay where they are. -/
  added : ∀ id handler (group : Int32), ∃ before behind,
    (∀ e ∈ before, e.1 ≤ group.toInt) ∧ (∀ e ∈ behind, group.toInt < e.1) ∧
    r.placed = before ++ behind ∧
    (r.add id handler group).placed = before ++ (group.toInt, ⟨id, handler⟩) :: behind
  /-- The first registration of its id is taken out of its group, and the others stay. -/
  removed : ∀ id (group : Int32) r', r.remove id group = .ok r' → ∃ before handler behind,
    (∀ e ∈ before, e.1 = group.toInt → e.2.id ≠ id) ∧
    r.placed = before ++ (group.toInt, ⟨id, handler⟩) :: behind ∧ r'.placed = before ++ behind

theorem inOrder (r : Registry) : r.InOrder where
  all := r.map_placed
  ascending := r.ascending_placed
  added id handler group := by
    obtain ⟨lower, higher, hlower, hhigher, hold, hnew⟩ :=
      r.placed_setGroup group ((r.group? group).getD [] ++ [⟨id, handler⟩])
    refine ⟨lower ++ ((r.group? group).getD []).map (group.toInt, ·), higher, ?_, hhigher, hold, ?_⟩
    · intro e he
      rcases List.mem_append.1 he with he | he
      · exact Int.le_of_lt (hlower e he)
      · obtain ⟨_, -, rfl⟩ := List.mem_map.1 he
        exact Int.le_refl _
    · unfold add
      rw [hnew]
      simp
  removed id group r' h := by
    unfold remove at h
    cases hgroup : r.group? group with
    | none =>
      rw [hgroup] at h
      cases h
    | some members =>
      simp only [hgroup] at h
      split at h
      · rename_i hany
        obtain rfl := Except.ok.inj h
        obtain ⟨found, hfound, hid⟩ := List.any_eq_true.1 hany
        obtain ⟨⟨id', handler⟩, first, second, hfirst, hid, rfl, herase⟩ :=
          List.exists_of_eraseP (p := (·.id == id)) hfound hid
        obtain rfl : id' = id := by simpa using hid
        obtain ⟨lower, higher, hlower, -, hold, hnew⟩ :=
          r.placed_setGroup group ((first ++ ⟨id', handler⟩ :: second).eraseP (·.id == id'))
        refine ⟨lower ++ first.map (group.toInt, ·), handler,
          second.map (group.toInt, ·) ++ higher, ?_, ?_, ?_⟩
        · intro e he hgroup'
          rcases List.mem_append.1 he with he | he
          · have hlt := hlower e he
            omega
          · obtain ⟨earlier, hearlier, rfl⟩ := List.mem_map.1 he
            simpa using hfirst earlier hearlier
        · rw [hold, hgroup]
          simp
        · rw [hnew, herase]
          simp
      · cases h

theorem toList_add (r : Registry) (id : HandlerId) (handler : Handler) (group : Int32) :
    ∃ before behind, r.toList = before ++ behind ∧
      (r.add id handler group).toList = before ++ ⟨id, handler⟩ :: behind := by
  obtain ⟨before, behind, -, -, hold, hnew⟩ := r.inOrder.added id handler group
  refine ⟨before.map (·.2), behind.map (·.2), ?_, ?_⟩
  · rw [← map_placed, hold, List.map_append]
  · rw [← map_placed, hnew, List.map_append, List.map_cons]

theorem mem_toList_add {r : Registry} {id : HandlerId} {handler : Handler} {group : Int32}
    {x : Registration} : x ∈ (r.add id handler group).toList ↔ x = ⟨id, handler⟩ ∨ x ∈ r.toList := by
  obtain ⟨before, behind, hold, hnew⟩ := r.toList_add id handler group
  rw [hold, hnew, List.mem_append, List.mem_cons, List.mem_append]
  exact or_left_comm

theorem mem_toList_of_remove {r r' : Registry} {id : HandlerId} {group : Int32} {x : Registration}
    (h : r.remove id group = .ok r') (hx : x ∈ r'.toList) : x ∈ r.toList := by
  obtain ⟨before, handler, behind, -, hold, hnew⟩ := r.inOrder.removed id group r' h
  have hfewer : (before ++ behind).Sublist (before ++ (group.toInt, ⟨id, handler⟩) :: behind) :=
    (List.Sublist.refl before).append (List.sublist_cons_self _ behind)
  rw [← map_placed, hnew] at hx
  rw [← map_placed, hold]
  exact (hfewer.map _).subset hx

end Registry

end UpdatePipeline
