import Mathlib.Data.List.Sort
import UpdatePipeline.Proofs.Program.Trace
set_option autoImplicit false

/-!
# The stored records as a list

A store lists its records by ascending scope, each scope once (`Records.IsKeyed.ascending_values`),
and the list holds exactly what looking up the scopes would find (`Records.IsKeyed.mem_values_iff`).
Both need that every record stands under its own scope, which writing keeps up.  Records that
are kept so are settled by what is found under the scopes (`Records.IsKeyed.ext`), and putting
them in as they are listed makes the same records again (`Records.IsKeyed.ofList_values`).
-/

namespace UpdatePipeline

theorem SortedMap.get?_eq_some_iff {α : Type} {m : SortedMap α} {key : Int} {value : α} :
    m.get? key = some value ↔ (key, value) ∈ m.entries := by
  obtain ⟨l, hl⟩ := m
  show l.lookup key = some value ↔ (key, value) ∈ l
  induction l with
  | nil => simp
  | cons d rest ih =>
    obtain ⟨hd, hrest⟩ := List.pairwise_cons.1 hl
    rw [lookup_cons, List.mem_cons]
    by_cases hkey : key = d.1
    · -- behind its first place a key does not come again
      have hlater : (key, value) ∉ rest := fun hmem => absurd (hd _ hmem) (by simp [hkey])
      subst hkey
      simp [hlater, Prod.ext_iff, eq_comm]
    · have hfirst : (key, value) ≠ d := fun h => hkey (congrArg Prod.fst h)
      simp [hkey, hfirst, ih hrest]

namespace Records

/-- Every record stands under its own scope. -/
def IsKeyed (m : Records) : Prop := ∀ e ∈ m.entries, e.1 = e.2.scope.toInt

theorem isKeyed_empty : IsKeyed ∅ := fun _ he => nomatch he

theorem IsKeyed.set {m : Records} (h : m.IsKeyed) (r : StateRecord) : (m.set r).IsKeyed := by
  intro e he
  rcases SortedMap.mem_insertEntry he with rfl | hold
  · rfl
  · exact h e hold

theorem IsKeyed.remove {m : Records} (h : m.IsKeyed) (scope : Scope) : (m.remove scope).IsKeyed :=
  fun e he => h e (List.mem_filter.1 he).1

theorem find?_remove (m : Records) (removed scope : Scope) :
    (m.remove removed).find? scope = if scope = removed then none else m.find? scope := by
  simp only [remove, find?, SortedMap.get?_erase, Int64.toInt_inj]

theorem isKeyed_ofList (records : List StateRecord) : (ofList records).IsKeyed :=
  List.foldlRecOn records Records.set isKeyed_empty fun _ h r _ => h.set r

theorem IsKeyed.applyTo {m : Records} (h : m.IsKeyed) (t : Program.Trace) :
    (t.applyTo m).IsKeyed := by
  refine List.foldlRecOn t Program.Event.applyTo h fun m hm e _ => ?_
  cases e with
  | stored record answer =>
    cases answer with
    | error _ => exact hm
    | ok _ => exact hm.set record
  | _ => exact hm

/-- The scopes are listed once each and ascending. -/
theorem IsKeyed.ascending_values {m : Records} (h : m.IsKeyed) :
    (m.values.map (·.scope)).Pairwise (· < ·) := by
  rw [SortedMap.values, List.map_map, List.pairwise_map]
  refine m.ascending.imp_of_mem fun {a b} ha hb hlt => ?_
  rw [h a ha, h b hb] at hlt
  exact Int64.lt_iff_toInt_lt.2 hlt

/-- What is listed is what a look-up finds. -/
theorem IsKeyed.mem_values_iff {m : Records} (h : m.IsKeyed) {r : StateRecord} :
    r ∈ m.values ↔ m.find? r.scope = some r := by
  rw [find?, SortedMap.get?_eq_some_iff, SortedMap.values, List.mem_map]
  constructor
  · rintro ⟨e, he, rfl⟩
    rwa [← h e he]
  · exact fun hmem => ⟨_, hmem, rfl⟩

/-- The scopes listed are those under which something is found. -/
theorem IsKeyed.mem_scopes_iff {m : Records} (h : m.IsKeyed) {scope : Scope} :
    scope ∈ m.values.map (·.scope) ↔ (m.find? scope).isSome := by
  rw [List.mem_map, Option.isSome_iff_exists]
  constructor
  · rintro ⟨r, hr, rfl⟩
    exact ⟨r, h.mem_values_iff.1 hr⟩
  · rintro ⟨r, hr⟩
    rw [find?, SortedMap.get?_eq_some_iff] at hr
    exact ⟨r, List.mem_map.2 ⟨_, hr, rfl⟩, (Int64.toInt_inj.1 (h _ hr)).symm⟩

theorem isSome_find?_foldl_set {records : List StateRecord} {m : Records} {scope : Scope}
    (h : (m.find? scope).isSome ∨ scope ∈ records.map (·.scope)) :
    ((records.foldl set m).find? scope).isSome := by
  induction records generalizing m with
  | nil => exact h.resolve_right List.not_mem_nil
  | cons r rest ih =>
    refine ih ?_
    rw [find?_set]
    split
    · exact .inl rfl
    · rename_i hother
      exact h.imp_right fun hmem => (List.mem_cons.1 hmem).resolve_left hother

theorem isSome_find?_ofList {records : List StateRecord} {r : StateRecord} (hr : r ∈ records) :
    ((ofList records).find? r.scope).isSome :=
  isSome_find?_foldl_set (.inr (List.mem_map_of_mem hr))

/-- Nothing that is written takes a scope away. -/
theorem isSome_find?_applyTo (t : Program.Trace) {m : Records} {scope : Scope}
    (h : (m.find? scope).isSome) : ((t.applyTo m).find? scope).isSome := by
  rw [Program.Trace.find?_applyTo, Option.isSome_or, h, Bool.or_true]

/-- Records are settled by what is found under the scopes. -/
theorem IsKeyed.ext {m n : Records} (hm : m.IsKeyed) (hn : n.IsKeyed)
    (h : ∀ scope, m.find? scope = n.find? scope) : m = n := by
  have hsub : ∀ {m n : Records}, m.IsKeyed → (∀ scope, m.find? scope = n.find? scope) →
      ∀ e ∈ m.entries, e ∈ n.entries := by
    intro m n hm h e he
    have hfound : m.find? e.2.scope = some e.2 := by
      rw [find?, SortedMap.get?_eq_some_iff, ← hm e he]
      exact he
    rw [h, find?, SortedMap.get?_eq_some_iff, ← hm e he] at hfound
    exact hfound
  have hirrefl : Std.Irrefl fun a b : Int × StateRecord => a.1 < b.1 := ⟨fun a => Int.lt_irrefl a.1⟩
  have hasymm : Std.Antisymm fun a b : Int × StateRecord => a.1 < b.1 :=
    ⟨fun a b hab hba => absurd hba (Int.lt_asymm hab)⟩
  exact SortedMap.ext (m.ascending.eq_of_mem_iff n.ascending fun e =>
    ⟨hsub hm h e, hsub hn (fun scope => (h scope).symm) e⟩)

/-- Records put in as they are listed come behind those already there. -/
theorem foldl_set_of_entries {acc m : Records} {rest : List (Int × StateRecord)}
    (hkeyed : ∀ e ∈ rest, e.1 = e.2.scope.toInt) (h : m.entries = acc.entries ++ rest) :
    (rest.map (·.2)).foldl set acc = m := by
  induction rest generalizing acc with
  | nil =>
    rw [List.append_nil] at h
    exact SortedMap.ext h.symm
  | cons e rest ih =>
    obtain ⟨he, hrest⟩ := List.forall_mem_cons.1 hkeyed
    have hlower : ∀ d ∈ acc.entries, d.1 < e.2.scope.toInt := by
      intro d hd
      have hascending := m.ascending
      rw [h] at hascending
      rw [← he]
      exact (List.pairwise_append.1 hascending).2.2 d hd e List.mem_cons_self
    have hset : (acc.set e.2).entries = acc.entries ++ [e] := by
      have hentry : (e.2.scope.toInt, e.2) = e := by rw [← he]
      rw [← hentry]
      exact SortedMap.insertEntry_of_forall_lt e.2 hlower
    rw [List.map_cons, List.foldl_cons]
    refine ih hrest ?_
    rw [hset, h, List.append_assoc]
    rfl

/-- Records put in as they are listed are the same records again. -/
theorem IsKeyed.ofList_values {m : Records} (h : m.IsKeyed) : ofList m.values = m :=
  foldl_set_of_entries h rfl

end Records

end UpdatePipeline
