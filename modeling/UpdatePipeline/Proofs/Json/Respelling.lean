import Mathlib.Data.List.Nodup
import UpdatePipeline.Json.Record
set_option autoImplicit false

/-!
# Json: other spellings of a value

A value that is written with every field can be spelled in other ways that say the same.  The
fields of a record can come in any order, undeclared ones can stand among them, and those that
are `null` can be left out, at any depth (`Json.Respelled`).  Each of them is read as a record that
gives every declared field (`Json.Record.exists_of_respelled`).

Whether an object is a record or the wrapper of a variant tells the name of its field: the tag
of a variant begins with a capital letter, and no name of a field does (`Json.isTag`).
-/

namespace UpdatePipeline.Json

/-! ## Spellings -/

/-- Whether a name is the tag of a variant. -/
def isTag (name : String) : Bool := name.toList.head?.any Char.isUpper

mutual

/-- The second value is another spelling of the first. -/
inductive Respelled : Json → Json → Prop where
  | same (j : Json) : Respelled j j
  | items {items items' : List Json} : RespelledItems items items' →
      Respelled (.arr items) (.arr items')
  | variant {tag : String} {body body' : Json} : isTag tag → Respelled body body' →
      Respelled (variant tag body) (variant tag body')
  /-- The fields that are kept and others of any names but theirs, in any order. -/
  | record {fields kept others fields' : List (String × Json)} :
      (∀ f ∈ fields, isTag f.1 = false) → Kept fields kept →
      (∀ f ∈ others, f.1 ∉ fields.map (·.1)) → fields'.Perm (kept ++ others) →
      Respelled (object fields) (object fields')

/-- Items spelled one by one. -/
inductive RespelledItems : List Json → List Json → Prop where
  | nil : RespelledItems [] []
  | cons {j j' : Json} {rest rest' : List Json} : Respelled j j' → RespelledItems rest rest' →
      RespelledItems (j :: rest) (j' :: rest')

/-- What is kept of the fields of a record: all, but for some that are `null`. -/
inductive Kept : List (String × Json) → List (String × Json) → Prop where
  | nil : Kept [] []
  | keep {name : String} {v v' : Json} {rest rest' : List (String × Json)} :
      Respelled v v' → Kept rest rest' → Kept ((name, v) :: rest) ((name, v') :: rest')
  | leaveOut {name : String} {rest rest' : List (String × Json)} :
      Kept rest rest' → Kept ((name, .null) :: rest) rest'

end

theorem kept_refl (fields : List (String × Json)) : Kept fields fields := by
  induction fields with
  | nil => exact .nil
  | cons f rest ih => exact .keep (.same f.2) ih

theorem object_injective {fields fields' : List (String × Json)}
    (h : object fields = object fields') : fields = fields' := by
  have hinjective : Function.Injective fun f : String × Json => ((some f.1 : Text), f.2) := by
    rintro ⟨name, v⟩ ⟨name', v'⟩ hsame
    simpa using hsame
  exact hinjective.list_map (Json.obj.inj h)

/-- What stands for itself is spelled in one way only. -/
theorem Respelled.eq_of_plain {j j' : Json} (h : Respelled j j') (harr : ∀ items, j ≠ .arr items)
    (hobj : ∀ fields, j ≠ .obj fields) : j' = j := by
  cases h with
  | same => rfl
  | items _ => exact absurd rfl (harr _)
  | variant _ _ => exact absurd rfl (hobj _)
  | record _ _ _ _ => exact absurd rfl (hobj _)

/-- Nothing but `null` is spelled `null`. -/
theorem Respelled.eq_null {j : Json} (h : Respelled j .null) : j = .null := by
  generalize hnull : Json.null = i at h
  cases h with
  | same => rfl
  | items _ => cases hnull
  | variant _ _ => cases hnull
  | record _ _ _ _ => cases hnull

theorem Respelled.of_arr {items : List Json} {j : Json} (h : Respelled (.arr items) j) :
    ∃ items', j = .arr items' ∧ RespelledItems items items' := by
  cases h with
  | same =>
    have hrefl : ∀ l : List Json, RespelledItems l l := by
      intro l
      induction l with
      | nil => exact .nil
      | cons i rest ih => exact .cons (.same i) ih
    exact ⟨items, rfl, hrefl items⟩
  | items hitems => exact ⟨_, rfl, hitems⟩

/-- A variant is spelled as a variant. -/
theorem Respelled.of_variant {tag : String} {body j : Json} (h : Respelled (Json.variant tag body) j)
    (htag : isTag tag) : ∃ body', j = Json.variant tag body' ∧ Respelled body body' := by
  generalize hobject : Json.variant tag body = i at h
  cases h with
  | same =>
    subst hobject
    exact ⟨body, rfl, .same body⟩
  | items _ => cases hobject
  | variant _ hbody =>
    obtain ⟨hfield, -⟩ := List.cons.inj (object_injective hobject)
    obtain ⟨rfl, rfl⟩ := Prod.mk.inj hfield
    exact ⟨_, rfl, hbody⟩
  | record hplain _ _ _ =>
    have hfields := object_injective hobject
    subst hfields
    have hnot := hplain _ (List.mem_singleton_self _)
    rw [htag] at hnot
    cases hnot

/-- A record is spelled as a record. -/
theorem Respelled.of_object {fields : List (String × Json)} {j : Json}
    (h : Respelled (object fields) j) (hplain : ∀ f ∈ fields, isTag f.1 = false) :
    ∃ kept others fields', j = object fields' ∧ Kept fields kept ∧
      (∀ f ∈ others, f.1 ∉ fields.map (·.1)) ∧ fields'.Perm (kept ++ others) := by
  generalize hobject : object fields = i at h
  cases h with
  | same =>
    subst hobject
    refine ⟨fields, [], fields, rfl, kept_refl fields, List.forall_mem_nil _, ?_⟩
    rw [List.append_nil]
  | items _ => cases hobject
  | variant htag _ =>
    have hfields := object_injective hobject
    subst hfields
    have hnot := hplain _ (List.mem_singleton_self _)
    rw [htag] at hnot
    cases hnot
  | record _ hkept hothers hperm =>
    have hfields := object_injective hobject
    subst hfields
    exact ⟨_, _, _, rfl, hkept, hothers, hperm⟩

/-! ## What is kept of a record -/

section Kept

variable {fields kept : List (String × Json)}

theorem Kept.names_sublist (h : Kept fields kept) :
    (kept.map (·.1)).Sublist (fields.map (·.1)) := by
  induction fields generalizing kept with
  | nil =>
    cases h
    exact .slnil
  | cons f rest ih =>
    cases h with
    | keep _ hrest => exact (ih hrest).cons_cons _
    | leaveOut hrest => exact (ih hrest).cons _

/-- A field that is not kept is `null`. -/
theorem Kept.cases (h : Kept fields kept) (hnodup : (fields.map (·.1)).Nodup)
    {name : String} {v : Json} (hmem : (name, v) ∈ fields) :
    (∃ v', (name, v') ∈ kept ∧ Respelled v v') ∨ (v = .null ∧ name ∉ kept.map (·.1)) := by
  induction fields generalizing kept with
  | nil => cases hmem
  | cons f rest ih =>
    obtain ⟨hnew, hrestNodup⟩ := List.nodup_cons.1 hnodup
    cases h with
    | @keep name' v₀ v' _ kept' hspelled hrest =>
      rcases List.mem_cons.1 hmem with hhead | htail
      · obtain ⟨rfl, rfl⟩ := Prod.mk.inj hhead
        exact .inl ⟨v', List.mem_cons_self, hspelled⟩
      · rcases ih hrest hrestNodup htail with ⟨v'', hmem', hspelled'⟩ | ⟨hnull, hlost⟩
        · exact .inl ⟨v'', List.mem_cons_of_mem _ hmem', hspelled'⟩
        · refine .inr ⟨hnull, ?_⟩
          have hother : name ≠ name' := by
            rintro rfl
            exact hnew (List.mem_map.2 ⟨_, htail, rfl⟩)
          rw [List.map_cons, List.mem_cons, not_or]
          exact ⟨hother, hlost⟩
    | leaveOut hrest =>
      rcases List.mem_cons.1 hmem with hhead | htail
      · obtain ⟨rfl, rfl⟩ := Prod.mk.inj hhead
        exact .inr ⟨rfl, fun hkept => hnew (hrest.names_sublist.subset hkept)⟩
      · exact ih hrest hrestNodup htail

end Kept

/-! ## Records as they are read -/

namespace Record

/-- A record read from an object gives this value for a field, in some spelling or, if it is
`null`, by leaving it out. -/
def Gives (r : Record) (name : String) (v : Json) : Prop :=
  r.positional = false ∧
    ((∃ v', r.value? name = some v' ∧ Respelled v v') ∨ (v = .null ∧ r.value? name = none))

/-- It gives all of these. -/
def GivesAll (r : Record) : List (String × Json) → Prop
  | [] => True
  | f :: rest => r.Gives f.1 f.2 ∧ r.GivesAll rest

theorem givesAll_of_forall {r : Record} {fields : List (String × Json)}
    (h : ∀ f ∈ fields, r.Gives f.1 f.2) : r.GivesAll fields := by
  induction fields with
  | nil => trivial
  | cons f rest ih =>
    obtain ⟨hf, hrest⟩ := List.forall_mem_cons.1 h
    exact ⟨hf, ih hrest⟩

theorem ofFields?_cons (names : List String) (f : String × Json) (rest : List (String × Json)) :
    ofFields? names ((some f.1, f.2) :: rest.map fun g => (some g.1, g.2)) =
      (ofFields? names (rest.map fun g => (some g.1, g.2))).bind fun declared =>
        if names.contains f.1 then
          if declared.any (·.1 == f.1) then none else some (f :: declared)
        else some declared := rfl

/-- The fields that are declared. -/
def declared (names : List String) (fields : List (String × Json)) : List (String × Json) :=
  fields.filter fun f => names.contains f.1

theorem declared_cons_of_pos {names : List String} {f : String × Json}
    (h : names.contains f.1 = true) (rest : List (String × Json)) :
    declared names (f :: rest) = f :: declared names rest := by
  rw [declared, List.filter_cons, if_pos h, declared]

theorem declared_cons_of_neg {names : List String} {f : String × Json}
    (h : ¬ names.contains f.1 = true) (rest : List (String × Json)) :
    declared names (f :: rest) = declared names rest := by
  rw [declared, List.filter_cons, if_neg h, declared]

theorem declared_append (names : List String) (fields others : List (String × Json)) :
    declared names (fields ++ others) = declared names fields ++ declared names others :=
  List.filter_append _ _

/-- Fields of which no declared one is repeated are read as far as they are declared. -/
theorem ofFields?_eq (names : List String) {fields : List (String × Json)}
    (hnodup : ((declared names fields).map (·.1)).Nodup) :
    ofFields? names (fields.map fun f => (some f.1, f.2)) = some (declared names fields) := by
  induction fields with
  | nil => rfl
  | cons f rest ih =>
    rw [List.map_cons, ofFields?_cons]
    by_cases hdeclared : names.contains f.1 = true
    · rw [declared_cons_of_pos hdeclared, List.map_cons, List.nodup_cons] at hnodup
      obtain ⟨hnew, hrest⟩ := hnodup
      have hnone : (declared names rest).any (·.1 == f.1) = false := by
        rw [List.any_eq_false]
        intro g hg hsame
        exact hnew (List.mem_map.2 ⟨g, hg, by simpa using hsame⟩)
      rw [ih hrest, Option.bind_some, if_pos hdeclared, hnone, declared_cons_of_pos hdeclared]
      rfl
    · rw [declared_cons_of_neg hdeclared] at hnodup ⊢
      rw [ih hnodup, Option.bind_some, if_neg hdeclared]

theorem lookup_of_mem {fields : List (String × Json)} (hnodup : (fields.map (·.1)).Nodup)
    {name : String} {v : Json} (hmem : (name, v) ∈ fields) : fields.lookup name = some v := by
  induction fields with
  | nil => cases hmem
  | cons f rest ih =>
    obtain ⟨hnew, hrest⟩ := List.nodup_cons.1 hnodup
    rw [List.lookup_cons]
    rcases List.mem_cons.1 hmem with rfl | htail
    · simp
    · have hother : (name == f.1) = false := by
        rw [beq_eq_false_iff_ne]
        rintro rfl
        exact hnew (List.mem_map.2 ⟨_, htail, rfl⟩)
      rw [hother]
      exact ih hrest htail

/-- Any spelling of a record with every declared field is read, and gives all of them. -/
theorem exists_of_respelled {names : List String} {fields : List (String × Json)} {j : Json}
    (h : Respelled (object fields) j) (hnames : fields.map (·.1) = names)
    (hnodup : names.Nodup) (hplain : ∀ name ∈ names, isTag name = false) :
    ∃ r, ofJson? names j = some r ∧ r.GivesAll fields := by
  subst hnames
  obtain ⟨kept, others, fields', rfl, hkept, hothers, hperm⟩ :=
    h.of_object fun f hf => hplain f.1 (List.mem_map.2 ⟨f, hf, rfl⟩)
  -- those among the fields that are declared are the ones that are kept
  have hdeclared : (declared (fields.map (·.1)) fields').Perm kept := by
    have hall : declared (fields.map (·.1)) kept = kept :=
      List.filter_eq_self.2 fun f hf => by
        simpa using hkept.names_sublist.subset (List.mem_map.2 ⟨f, hf, rfl⟩)
    have hnone : declared (fields.map (·.1)) others = [] :=
      List.filter_eq_nil_iff.2 fun f hf => by simpa using hothers f hf
    have hfiltered : (declared _ fields').Perm (declared (fields.map (·.1)) (kept ++ others)) :=
      hperm.filter _
    rw [declared_append, hall, hnone, List.append_nil] at hfiltered
    exact hfiltered
  have hnodup' : ((declared (fields.map (·.1)) fields').map (·.1)).Nodup :=
    (hdeclared.map (·.1)).nodup_iff.2 (hkept.names_sublist.nodup hnodup)
  refine ⟨⟨declared (fields.map (·.1)) fields', false⟩, ?_, ?_⟩
  · show (ofFields? _ (fields'.map fun f => (some f.1, f.2))).map _ = _
    rw [ofFields?_eq _ hnodup']
    rfl
  · refine givesAll_of_forall ?_
    rintro ⟨name, v⟩ hf
    refine ⟨rfl, ?_⟩
    rcases hkept.cases hnodup hf with ⟨v', hmem, hspelled⟩ | ⟨hnull, hlost⟩
    · exact .inl ⟨v', lookup_of_mem hnodup' (hdeclared.mem_iff.2 hmem), hspelled⟩
    · refine .inr ⟨hnull, List.lookup_eq_none_iff.2 fun g hg => ?_⟩
      have hother : name ≠ g.1 := by
        rintro rfl
        exact hlost (List.mem_map.2 ⟨g, hdeclared.mem_iff.1 hg, rfl⟩)
      simpa using hother

/-- What follows from all its fields is read from any spelling of a record. -/
theorem read {α : Type} {names : List String} {fields : List (String × Json)} {j : Json}
    {decode : Record → Option α} {a : α} (h : Respelled (object fields) j)
    (hnames : fields.map (·.1) = names) (hnodup : names.Nodup)
    (hplain : ∀ name ∈ names, isTag name = false)
    (hread : ∀ r : Record, r.GivesAll fields → decode r = some a) :
    (ofJson? names j).bind decode = some a := by
  obtain ⟨r, hr, hgives⟩ := exists_of_respelled h hnames hnodup hplain
  rw [hr, Option.bind_some]
  exact hread r hgives

end Record

/-- And so it is behind the tag of a variant. -/
theorem Tagged.read {α : Type} (tag : String) {names : List String}
    {fields : List (String × Json)} {body : Json} {decode : Record → Option α} {a : α}
    (h : Respelled (object fields) body) (hnames : fields.map (·.1) = names)
    (hnodup : names.Nodup) (hplain : ∀ name ∈ names, isTag name = false)
    (hread : ∀ r : Record, r.GivesAll fields → decode r = some a) :
    Tagged.record ⟨tag, some body⟩ names decode = some a :=
  Record.read h hnames hnodup hplain hread

end UpdatePipeline.Json
