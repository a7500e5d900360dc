import Mathlib.Data.List.DropRight
import UpdatePipeline.Proofs.Registry.History
set_option autoImplicit false

/-!
# What the changes to a registry come to

After any changes a registry tries the registrations that stand, each once, and it answers for
them: what stands can be taken back, and nothing else; a group is known from the first
registration in it until the registry is cleared, whether or not anything of it still stands
(`Registry.replay_manages`).
-/

namespace UpdatePipeline

namespace Registry

/-- The changes since all registrations went. -/
def sinceClear (changes : List Change) : List Change := changes.rtakeWhile fun c => !c.isClear

/-- The groups that a registration was added to since all went. -/
def founded (changes : List Change) : List Int :=
  ((sinceClear changes).filterMap Change.placed?).map (·.1)

variable {changes : List Change} {r : Registry} {id : HandlerId} {group : Int32}

/-! ## Which groups there are -/

theorem sinceClear_clear : sinceClear (changes ++ [.clear]) = [] :=
  List.rtakeWhile_concat_neg _ _ _ (by simp [Change.isClear])

theorem sinceClear_concat {c : Change} (hc : c ≠ .clear) :
    sinceClear (changes ++ [c]) = sinceClear changes ++ [c] := by
  have hstays : !c.isClear := by
    rw [Change.isClear_of_ne hc]
    rfl
  exact List.rtakeWhile_concat_pos _ _ _ hstays

theorem mem_founded_concat {c : Change} (hc : c ≠ .clear) {n : Int} :
    n ∈ founded (changes ++ [c]) ↔ n ∈ founded changes ∨ ∃ e ∈ c.placed?, e.1 = n := by
  unfold founded
  rw [sinceClear_concat hc, List.filterMap_append, List.map_append, List.mem_append]
  simp

theorem mem_groupNumbers_iff {n : Int} : n ∈ r.groupNumbers ↔ (r.groups.get? n).isSome := by
  unfold groupNumbers SortedMap.keys
  rw [List.mem_map, Option.isSome_iff_exists]
  constructor
  · rintro ⟨e, he, rfl⟩
    exact ⟨e.2, SortedMap.get?_eq_some_iff.2 he⟩
  · rintro ⟨members, hmembers⟩
    exact ⟨_, SortedMap.get?_eq_some_iff.1 hmembers, rfl⟩

theorem mem_groupNumbers_setGroup {members : List Registration} {n : Int} :
    n ∈ (r.setGroup group members).groupNumbers ↔ n ∈ r.groupNumbers ∨ group.toInt = n := by
  rw [mem_groupNumbers_iff, mem_groupNumbers_iff, setGroup, SortedMap.get?_insert]
  by_cases hn : n = group.toInt
  · simp [hn]
  · simp [hn, Ne.symm hn]

theorem group?_eq_none_iff : r.group? group = none ↔ group.toInt ∉ r.groupNumbers := by
  rw [mem_groupNumbers_iff, Option.not_isSome_iff_eq_none, group?]

/-- What comes of taking a registration back. -/
theorem remove_cases (r : Registry) (id : HandlerId) (group : Int32) :
    (group.toInt ∉ r.groupNumbers ∧ r.remove id group = .error (.unknownGroup group)) ∨
    (group.toInt ∈ r.groupNumbers ∧
      (r.remove id group = .error (.unknownHandler id) ∨
        ∃ members, r.remove id group = .ok (r.setGroup group members))) := by
  cases hgroup : r.group? group with
  | none =>
    refine .inl ⟨group?_eq_none_iff.1 hgroup, ?_⟩
    unfold remove
    rw [hgroup]
  | some members =>
    refine .inr ⟨?_, ?_⟩
    · by_contra hnone
      rw [group?_eq_none_iff.2 hnone] at hgroup
      cases hgroup
    · unfold remove
      rw [hgroup]
      dsimp only
      split
      · exact .inr ⟨_, rfl⟩
      · exact .inl rfl

/-- Taking something back neither brings a group nor takes one away. -/
theorem mem_groupNumbers_change_remove {n : Int} :
    n ∈ (r.change (.remove id group)).groupNumbers ↔ n ∈ r.groupNumbers := by
  rcases r.remove_cases id group with ⟨-, hunknown⟩ | ⟨hthere, hunknown | ⟨members, hremoved⟩⟩
  · simp only [change, hunknown]
  · simp only [change, hunknown]
  · simp only [change, hremoved, mem_groupNumbers_setGroup]
    constructor
    · rintro (hold | rfl)
      · exact hold
      · exact hthere
    · exact .inl

theorem mem_groupNumbers_replay {n : Int} :
    n ∈ (replay changes).groupNumbers ↔ n ∈ founded changes := by
  induction changes using List.reverseRecOn with
  | nil => exact Iff.rfl
  | append_singleton changes c ih =>
    rw [replay_concat]
    cases c with
    | clear =>
      unfold founded
      rw [sinceClear_clear]
      exact Iff.rfl
    | add id handler group =>
      rw [mem_founded_concat (by simp), ← ih]
      show n ∈ (Registry.setGroup _ _ _).groupNumbers ↔ _
      rw [mem_groupNumbers_setGroup]
      simp [Change.placed?]
    | remove id group =>
      rw [mem_founded_concat (by simp), ← ih, mem_groupNumbers_change_remove]
      simp [Change.placed?]

/-! ## What stands -/

/-- What stands was added and has neither been taken back nor gone with all others since. -/
theorem mem_standing_iff {e : Int × Registration} :
    e ∈ standing changes ↔ ∃ earlier c later, changes = earlier ++ c :: later ∧
      c.placed? = some e ∧ ∀ d ∈ later, d.keeps e := by
  constructor
  · intro he
    induction changes using List.reverseRecOn with
    | nil => cases he
    | append_singleton changes d ih =>
      rw [standing_concat, stand, List.mem_append, List.mem_filter, Option.mem_toList] at he
      rcases he with ⟨hstood, hkept⟩ | hnew
      · obtain ⟨earlier, c, later, rfl, hplaced, hlater⟩ := ih hstood
        refine ⟨earlier, c, later ++ [d], by simp, hplaced, ?_⟩
        intro d' hd'
        rcases List.mem_append.1 hd' with hd' | hd'
        · exact hlater d' hd'
        · rwa [List.mem_singleton.1 hd']
      · exact ⟨changes, d, [], rfl, hnew, List.forall_mem_nil _⟩
  · rintro ⟨earlier, c, later, rfl, hplaced, hlater⟩
    have hthere : e ∈ standing (earlier ++ [c]) := by
      rw [standing_concat, stand, List.mem_append, Option.mem_toList]
      exact .inr hplaced
    rw [List.append_cons, standing_append, List.mem_append, List.mem_filter]
    exact .inl ⟨hthere, List.all_eq_true.2 hlater⟩

theorem Lists.removable {entries : List (Int × Registration)} (h : r.Lists entries) :
    (∃ r', r.remove id group = .ok r') ↔ ∃ handler, (group.toInt, ⟨id, handler⟩) ∈ entries := by
  constructor
  · rintro ⟨r', hr'⟩
    obtain ⟨before, handler, behind, -, hplaced, -⟩ := r.inOrder.removed id group r' hr'
    refine ⟨handler, (h.mem_iff _).1 ?_⟩
    simp [hplaced]
  · rintro ⟨handler, hmem⟩
    cases hremove : r.remove id group with
    | ok r' => exact ⟨r', rfl⟩
    | error e => exact absurd rfl (not_listed_of_remove_error hremove _ ((h.mem_iff _).2 hmem) rfl)

/-- What is listed is what stands, in another order. -/
theorem Lists.perm {entries : List (Int × Registration)} (h : r.Lists entries) :
    r.placed.Perm entries := by
  classical
  rw [List.perm_iff_count]
  intro e
  have hgroup := congrArg (List.count e) (h.inGroups e.1)
  rwa [List.count_filter (by simp), List.count_filter (by simp)] at hgroup

/-! ## What a registry does after any changes -/

/-- What these changes have made of a registry. -/
structure Manages (changes : List Change) (r : Registry) : Prop where
  /-- A registration stands if it was added and has neither been taken back nor gone with all
  others since. -/
  stands : ∀ e, e ∈ standing changes ↔ ∃ earlier c later, changes = earlier ++ c :: later ∧
    c.placed? = some e ∧ ∀ d ∈ later, d.keeps e
  /-- They stand in the order in which they were added. -/
  inTime : (standing changes).Sublist (changes.filterMap Change.placed?)
  tried : r.toList = r.placed.map (·.2)
  /-- They are tried by ascending groups, and in that order in each group. -/
  lists : r.Lists (standing changes)
  once : (r.toList.map (·.id)).Nodup
  removable : ∀ id group, (∃ r', r.remove id group = .ok r') ↔
    ∃ handler, (group.toInt, ⟨id, handler⟩) ∈ standing changes
  /-- What is taken back is taken out, and the others stay where they are. -/
  removed : ∀ id group r', r.remove id group = .ok r' → ∃ before handler behind,
    r.placed = before ++ (group.toInt, ⟨id, handler⟩) :: behind ∧ r'.placed = before ++ behind
  unknownGroup : ∀ id group,
    r.remove id group = .error (.unknownGroup group) ↔ group.toInt ∉ founded changes
  unknownHandler : ∀ id group, r.remove id group = .error (.unknownHandler id) ↔
    group.toInt ∈ founded changes ∧ ∀ handler, (group.toInt, ⟨id, handler⟩) ∉ standing changes
  /-- What does not stand cannot be taken back, and to try changes nothing. -/
  refused : ∀ id group, (∀ handler, (group.toInt, ⟨id, handler⟩) ∉ standing changes) →
    r.change (.remove id group) = r
  groupsAscending : r.groupNumbers.Pairwise (· < ·)
  groups : ∀ n, n ∈ r.groupNumbers ↔ n ∈ founded changes

/-- After any changes, each registration under an id of its own, a registry tries what stands,
group by group and within a group by age, and takes back what stands and nothing else. -/
theorem replay_manages (changes : List Change) (hids : (added changes).Nodup) :
    Manages changes (replay changes) := by
  have hlists := lists_replay hids
  constructor
  case stands => exact fun _ => mem_standing_iff
  case inTime => exact standing_sublist changes
  case tried => exact (map_placed _).symm
  case lists => exact hlists
  case once =>
    rw [← map_placed, List.map_map]
    have hstanding := hids.sublist (standing_sublist_added changes)
    exact (hlists.perm.map (·.2.id)).nodup_iff.2 hstanding
  case removable => exact fun _ _ => hlists.removable
  case removed =>
    intro id group r' hr'
    obtain ⟨before, handler, behind, -, hplaced, hleft⟩ :=
      (replay changes).inOrder.removed id group r' hr'
    exact ⟨before, handler, behind, hplaced, hleft⟩
  case unknownGroup =>
    intro id group
    rw [← mem_groupNumbers_replay]
    rcases (replay changes).remove_cases id group with
      ⟨hnone, hresult⟩ | ⟨hthere, hresult | ⟨members, hresult⟩⟩
    · simp [hresult, hnone]
    · simp [hresult, hthere]
    · simp [hresult, hthere]
  case unknownHandler =>
    intro id group
    rw [← mem_groupNumbers_replay, ← not_exists, ← hlists.removable]
    rcases (replay changes).remove_cases id group with
      ⟨hnone, hresult⟩ | ⟨hthere, hresult | ⟨members, hresult⟩⟩
    · simp [hresult, hnone]
    · simp [hresult, hthere]
    · simp [hresult]
  case refused =>
    intro id group hnone
    rw [← not_exists, ← hlists.removable] at hnone
    cases hresult : (replay changes).remove id group with
    | ok r' => exact absurd ⟨r', hresult⟩ hnone
    | error e => simp only [change, hresult]
  case groupsAscending => exact List.pairwise_map.2 (replay changes).groups.ascending
  case groups => exact fun _ => mem_groupNumbers_replay

/-- Handlers come to the groups 2, 0 and 0; the older one of group 0 is taken back, and in vain
it is tried once more and in a group that there is not. -/
def threeHandlers : List Change :=
  let handler : Handler := .raw fun _ => {}
  [.add 1 handler 2, .add 2 handler 0, .add 3 handler 0, .remove 2 0, .remove 2 0, .remove 3 7]

theorem replay_manages_threeHandlers :
    (added threeHandlers).Nodup ∧ Manages threeHandlers (replay threeHandlers) ∧
      (replay threeHandlers).toList.map (·.id) = [3, 1] :=
  ⟨by decide, replay_manages _ (by decide), rfl⟩

end Registry

end UpdatePipeline
