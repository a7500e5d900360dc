import Mathlib.Data.List.Induction
import UpdatePipeline.Proofs.Records
import UpdatePipeline.Proofs.Registry
set_option autoImplicit false

/-!
# The registry as a history

A registry is what a sequence of changes has made of an empty one (`Registry.replay`).  Which
registrations stand after the changes can be said without any groups: a list that grows at its
end and loses what is taken back (`Registry.standing`).  The registry tries them group by
group, and those of one group in the order of that list (`Registry.lists_replay`).
-/

namespace UpdatePipeline

namespace Registry

/-- The registry after a change.  What is not registered cannot be taken back. -/
def change (r : Registry) : Change → Registry
  | .add id handler group => r.add id handler group
  | .remove id group =>
    match r.remove id group with
    | .ok r' => r'
    | .error _ => r
  | .clear => empty

/-- What these changes make of an empty registry. -/
def replay (changes : List Change) : Registry := changes.foldl change empty

/-- Whether a change drops all registrations. -/
def Change.isClear : Change → Bool
  | .clear => true
  | _ => false

theorem Change.isClear_of_ne {c : Change} (h : c ≠ .clear) : c.isClear = false := by
  cases c with
  | clear => exact absurd rfl h
  | add _ _ _ => rfl
  | remove _ _ => rfl

/-- The registration that a change makes, with the number of its group. -/
def Change.placed? : Change → Option (Int × Registration)
  | .add id handler group => some (group.toInt, ⟨id, handler⟩)
  | _ => none

/-- Whether a registration stands after a change if it stood before. -/
def Change.keeps (e : Int × Registration) : Change → Bool
  | .add _ _ _ => true
  | .remove id group => !(e.1 == group.toInt && e.2.id == id)
  | .clear => false

/-- Whether a registration stands after all of these changes if it stood before. -/
def kept (changes : List Change) (e : Int × Registration) : Bool := changes.all (·.keeps e)

/-- The registrations that stand after a change. -/
def stand (standing : List (Int × Registration)) (c : Change) : List (Int × Registration) :=
  standing.filter (c.keeps ·) ++ c.placed?.toList

/-- The registrations that stand after these changes, in the order in which they were made. -/
def standing (changes : List Change) : List (Int × Registration) := changes.foldl stand []

/-- The ids under which these changes register handlers. -/
def added (changes : List Change) : List HandlerId :=
  (changes.filterMap Change.placed?).map (·.2.id)

/-! ## Histories grow at their end -/

section Append

variable (first second : List Change)

theorem replay_concat (c : Change) : replay (first ++ [c]) = (replay first).change c := by
  unfold replay
  rw [List.foldl_append]
  rfl

theorem standing_concat (c : Change) : standing (first ++ [c]) = stand (standing first) c := by
  unfold standing
  rw [List.foldl_append]
  rfl

theorem added_append : added (first ++ second) = added first ++ added second := by
  unfold added
  rw [List.filterMap_append, List.map_append]

/-- What stood before is sifted by the later changes, and what they make stands behind it. -/
theorem standing_append :
    standing (first ++ second) = (standing first).filter (kept second) ++ standing second := by
  induction second using List.reverseRecOn with
  | nil =>
    rw [List.append_nil]
    unfold kept standing
    simp
  | append_singleton second c ih =>
    have hkept : kept (second ++ [c]) = fun e => c.keeps e && kept second e := by
      funext e
      unfold kept
      rw [List.all_append, Bool.and_comm]
      simp
    rw [← List.append_assoc, standing_concat, standing_concat, ih, hkept, stand, stand,
      List.filter_append, List.filter_filter, List.append_assoc]

end Append

theorem mem_added_of_standing {changes : List Change} {e : Int × Registration}
    (h : e ∈ standing changes) : e.2.id ∈ added changes := by
  induction changes using List.reverseRecOn with
  | nil => cases h
  | append_singleton changes c ih =>
    rw [standing_concat, stand] at h
    rw [added_append]
    rcases List.mem_append.1 h with hold | hnew
    · exact List.mem_append_left _ (ih (List.mem_of_mem_filter hold))
    · apply List.mem_append_right
      unfold added
      rw [Option.mem_toList] at hnew
      simp only [List.filterMap_cons, List.filterMap_nil, hnew]
      exact List.mem_cons_self

/-- What stands is what was added, in the order in which it was, less what has gone. -/
theorem standing_sublist (changes : List Change) :
    (standing changes).Sublist (changes.filterMap Change.placed?) := by
  induction changes using List.reverseRecOn with
  | nil => exact List.nil_sublist _
  | append_singleton changes c ih =>
    have hnew : [c].filterMap Change.placed? = c.placed?.toList := by
      cases hentry : c.placed? with
      | none => simp [hentry]
      | some e => simp [hentry]
    rw [standing_concat, stand, List.filterMap_append, hnew]
    exact (List.filter_sublist.trans ih).append (List.Sublist.refl _)

theorem standing_sublist_added (changes : List Change) :
    ((standing changes).map (·.2.id)).Sublist (added changes) := (standing_sublist changes).map _

/-! ## What a registry lists -/

/-- A registration is listed if and only if its group holds it. -/
theorem mem_placed_iff {r : Registry} {group : Int32} {x : Registration} :
    (group.toInt, x) ∈ r.placed ↔ ∃ members, r.group? group = some members ∧ x ∈ members := by
  unfold placed numbered group?
  rw [List.mem_flatMap]
  constructor
  · rintro ⟨e, he, hx⟩
    obtain ⟨y, hy, hyx⟩ := List.mem_map.1 hx
    obtain ⟨hgroup, rfl⟩ := Prod.mk.inj hyx
    refine ⟨e.2, ?_, hy⟩
    rw [SortedMap.get?_eq_some_iff, ← hgroup]
    exact he
  · rintro ⟨members, hmembers, hx⟩
    exact ⟨_, SortedMap.get?_eq_some_iff.1 hmembers, List.mem_map_of_mem hx⟩

/-- Nothing is listed that could have been taken back and was not. -/
theorem not_listed_of_remove_error {r : Registry} {id : HandlerId} {group : Int32}
    {e : DispatchError} (h : r.remove id group = .error e) :
    ∀ x ∈ r.placed, x.1 = group.toInt → x.2.id ≠ id := by
  intro x hx hgroup hid
  obtain ⟨_, y⟩ := x
  obtain rfl : _ = group.toInt := hgroup
  obtain ⟨members, hmembers, hy⟩ := mem_placed_iff.1 hx
  have hany : members.any (·.id == id) := List.any_eq_true.2 ⟨y, hy, by simpa using hid⟩
  unfold remove at h
  rw [hmembers] at h
  simp only [hany, if_true] at h
  cases h

/-- The registry tries these registrations, group by group, and those of one group in their
order here. -/
structure Lists (r : Registry) (entries : List (Int × Registration)) : Prop where
  ascending : r.placed.Pairwise fun a b => a.1 ≤ b.1
  inGroups : ∀ group, r.placed.filter (·.1 == group) = entries.filter (·.1 == group)

variable {r : Registry} {entries : List (Int × Registration)}

theorem Lists.mem_iff (h : r.Lists entries) (e : Int × Registration) :
    e ∈ r.placed ↔ e ∈ entries := by
  have hgroup : e ∈ r.placed.filter (·.1 == e.1) ↔ e ∈ entries.filter (·.1 == e.1) := by
    rw [h.inGroups e.1]
  simpa using hgroup

/-- A registration stands, among those of its group, where it stands in the list. -/
theorem Lists.split {before behind : List (Int × Registration)} {x : Int × Registration}
    (h : r.Lists (before ++ x :: behind)) (hids : ((before ++ x :: behind).map (·.2.id)).Nodup) :
    ∃ front back, r.placed = front ++ x :: back ∧
      (∀ e ∈ front, e.1 ≤ x.1) ∧ (∀ e ∈ back, x.1 ≤ e.1) ∧
      front.filter (·.1 == x.1) = before.filter (·.1 == x.1) ∧
      back.filter (·.1 == x.1) = behind.filter (·.1 == x.1) := by
  have hx : x ∈ r.placed := (h.mem_iff x).2 (by simp)
  obtain ⟨front, back, hplaced⟩ := List.append_of_mem hx
  have hascending := h.ascending
  rw [hplaced, List.pairwise_append, List.pairwise_cons] at hascending
  obtain ⟨-, ⟨hback, -⟩, hfront⟩ := hascending
  have hgroup := h.inGroups x.1
  rw [hplaced, List.filter_append, List.filter_append, List.filter_cons_of_pos (by simp),
    List.filter_cons_of_pos (by simp)] at hgroup
  -- the registration is in its group only once, so the two lists split at the same place
  have honce : (before ++ x :: behind).Nodup := hids.of_map _
  obtain ⟨-, hbehind, hbefore⟩ := List.nodup_append.1 honce
  have hnotBefore : x ∉ before.filter (·.1 == x.1) := fun hmem =>
    hbefore x (List.mem_of_mem_filter hmem) x List.mem_cons_self rfl
  have hnotBehind : x ∉ behind.filter (·.1 == x.1) := fun hmem =>
    (List.nodup_cons.1 hbehind).1 (List.mem_of_mem_filter hmem)
  obtain ⟨hsame, -, hsame'⟩ := (List.append_cons_inj_of_notMem hnotBefore hnotBehind).1 hgroup.symm
  refine ⟨front, back, hplaced, ?_, hback, hsame.symm, hsame'.symm⟩
  intro e he
  exact hfront e he x List.mem_cons_self

theorem lists_empty : empty.Lists [] := ⟨ascending_placed _, fun _ => rfl⟩

theorem Lists.add (h : r.Lists entries) (id : HandlerId) (handler : Handler) (g : Int32) :
    (r.add id handler g).Lists (entries ++ [(g.toInt, ⟨id, handler⟩)]) := by
  refine ⟨ascending_placed _, ?_⟩
  intro group
  obtain ⟨before, behind, -, hbehind, hold, hnew⟩ := r.inOrder.added id handler g
  rw [hnew, List.filter_append, List.filter_append, ← h.inGroups, hold, List.filter_append]
  by_cases hg : g.toInt = group
  · -- those of the same group all stand before it
    have hnone : behind.filter (·.1 == group) = [] := by
      rw [List.filter_eq_nil_iff]
      intro e he
      have hlt := hbehind e he
      simp only [beq_iff_eq]
      omega
    simp [hg, hnone]
  · simp [hg]

/-- The entries of which none is taken back all stay. -/
theorem filter_keeps_remove {id : HandlerId} {g : Int32} {entries : List (Int × Registration)}
    (h : ∀ e ∈ entries, e.1 = g.toInt → e.2.id ≠ id) :
    entries.filter (fun e => (Change.remove id g).keeps e) = entries := by
  rw [List.filter_eq_self]
  intro e he
  have hother := h e he
  simpa [Change.keeps, imp_iff_not_or] using hother

/-- The only registration of a group with this id is taken out. -/
theorem Lists.remove {r' : Registry} {id : HandlerId} {g : Int32} (h : r.Lists entries)
    (hids : (entries.map (·.2.id)).Nodup) (hr' : r.remove id g = .ok r') :
    r'.placed = r.placed.filter fun e => (Change.remove id g).keeps e := by
  obtain ⟨before, handler, behind, hbefore, hold, hnew⟩ := r.inOrder.removed id g r' hr'
  have hbehind : ∀ e ∈ behind, e.1 = g.toInt → e.2.id ≠ id := by
    intro e he hg hid
    have hgroup : ((r.placed.filter (·.1 == g.toInt)).map (·.2.id)).Nodup := by
      rw [h.inGroups]
      exact hids.sublist (List.filter_sublist.map _)
    rw [hold, List.filter_append, List.filter_cons_of_pos (by simp), List.map_append,
      List.map_cons] at hgroup
    apply (List.nodup_cons.1 (List.nodup_append.1 hgroup).2.1).1
    rw [List.mem_map]
    exact ⟨e, List.mem_filter.2 ⟨he, by simpa using hg⟩, hid⟩
  rw [hnew, hold, List.filter_append, List.filter_cons_of_neg (by simp [Change.keeps]),
    filter_keeps_remove hbefore, filter_keeps_remove hbehind]

theorem Lists.change (h : r.Lists entries) (hids : (entries.map (·.2.id)).Nodup) (c : Change) :
    (r.change c).Lists (stand entries c) := by
  cases c with
  | clear =>
    have hnone : stand entries .clear = [] := by simp [stand, Change.keeps, Change.placed?]
    rw [hnone]
    exact lists_empty
  | add id handler g =>
    have hall : stand entries (.add id handler g) = entries ++ [(g.toInt, ⟨id, handler⟩)] := by
      simp [stand, Change.keeps, Change.placed?]
    rw [hall]
    exact h.add id handler g
  | remove id g =>
    have hsifted : (r.change (.remove id g)).placed =
        r.placed.filter fun e => (Change.remove id g).keeps e := by
      cases hremove : r.remove id g with
      | ok r' =>
        simp only [Registry.change, hremove]
        exact h.remove hids hremove
      | error e =>
        simp only [Registry.change, hremove]
        exact (filter_keeps_remove (not_listed_of_remove_error hremove)).symm
    have hleft : stand entries (.remove id g) =
        entries.filter fun e => (Change.remove id g).keeps e := List.append_nil _
    refine ⟨ascending_placed _, ?_⟩
    intro group
    rw [hsifted, hleft, List.filter_comm, h.inGroups, List.filter_comm]

/-- A registry whose ids were used once each lists what stands. -/
theorem lists_replay {changes : List Change} (hids : (added changes).Nodup) :
    (replay changes).Lists (standing changes) := by
  induction changes using List.reverseRecOn with
  | nil => exact lists_empty
  | append_singleton changes c ih =>
    have hearlier : (added changes).Nodup := by
      rw [added_append] at hids
      exact (List.nodup_append.1 hids).1
    rw [replay_concat, standing_concat]
    exact (ih hearlier).change (hearlier.sublist (standing_sublist_added changes)) c

/-! ## Changes that found what they take back -/

theorem change_of_apply {r' : Registry} {c : Change} (h : r.apply c = .ok r') : r.change c = r' := by
  cases c with
  | add id handler group => exact Except.ok.inj h
  | clear => exact Except.ok.inj h
  | remove id group =>
    have hremove : r.remove id group = .ok r' := h
    rw [change, hremove]

/-- What each of these changes takes back was there. -/
def Accepted (changes : List Change) : Prop :=
  ∀ before c later, changes = before ++ c :: later → ∃ r, (replay before).apply c = .ok r

theorem accepted_nil : Accepted [] := by
  intro before c later hsplit
  simp at hsplit

theorem Accepted.of_prefix {changes first : List Change} (h : Accepted changes)
    (hfirst : first <+: changes) : Accepted first := by
  rintro before c later rfl
  obtain ⟨rest, rfl⟩ := hfirst
  exact h before c (later ++ rest) (by rw [List.append_assoc, List.cons_append])

theorem Accepted.concat {changes : List Change} (h : Accepted changes) {c : Change}
    (hc : ∃ r, (replay changes).apply c = .ok r) : Accepted (changes ++ [c]) := by
  intro before c' later hsplit
  rcases List.eq_nil_or_concat' later with rfl | ⟨later, last, rfl⟩
  · obtain ⟨rfl, hsame⟩ := List.append_inj' hsplit rfl
    obtain rfl := List.head_eq_of_cons_eq hsame
    exact hc
  · rw [← List.cons_append, ← List.append_assoc] at hsplit
    obtain ⟨hchanges, -⟩ := List.append_inj' hsplit rfl
    exact h before c' later hchanges

/-- What has been taken back stands no more, under whatever group. -/
theorem Accepted.gone {changes : List Change} (h : Accepted changes) (hids : (added changes).Nodup)
    {id : HandlerId} {group : Int32} (hmem : .remove id group ∈ changes) :
    ∀ e ∈ standing changes, e.2.id ≠ id := by
  obtain ⟨before, later, rfl⟩ := List.append_of_mem hmem
  obtain ⟨r', hremove⟩ := h before (.remove id group) later rfl
  rw [added_append] at hids
  obtain ⟨hbefore, hlater, hdisjoint⟩ := List.nodup_append.1 hids
  have hstanding := hbefore.sublist (standing_sublist_added before)
  obtain ⟨front, handler, behind, -, hplaced, -⟩ := (replay before).inOrder.removed id group r' hremove
  have hthere : (group.toInt, ⟨id, handler⟩) ∈ standing before := by
    rw [← (lists_replay hbefore).mem_iff, hplaced]
    simp
  intro e he hid
  rw [List.append_cons, standing_append, standing_concat] at he
  rcases List.mem_append.1 he with hold | hnew
  · -- it is the only one with its id, and it was taken back
    obtain ⟨hstood, hkept⟩ : e ∈ standing before ∧ (Change.remove id group).keeps e := by
      simpa [stand, Change.placed?] using List.mem_of_mem_filter hold
    obtain rfl := List.inj_on_of_nodup_map hstanding hstood hthere hid
    simp [Change.keeps] at hkept
  · -- no id is used twice
    apply hdisjoint _ (mem_added_of_standing hthere) e.2.id
    · exact mem_added_of_standing hnew
    · exact hid.symm

end Registry

end UpdatePipeline
