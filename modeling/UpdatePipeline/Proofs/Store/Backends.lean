import UpdatePipeline.Proofs.Store.Durability
import UpdatePipeline.Proofs.Store.Sqlite
set_option autoImplicit false

/-!
# All stores are one map

Whatever a store keeps its records in, it answers every call as a map from scopes to records
does, as long as its file can be written: `held` says what the map has under a scope, by the
calls alone.  What carries this through any sequence of calls is, for a store that works in
memory, that memory holds that map and the file, if there is one, holds what memory does
(`Mirrors`), and for a database that the rows of its table are the records of that map
(`Tables`); so opening the file afresh makes no difference.  The record file of a map is the same
whichever calls it was made by (`stores_act_as_maps`).
-/

namespace UpdatePipeline

namespace Store

/-! ## Calls and their answers -/

/-- A call of a store. -/
inductive Call where
  | change (change : Change)
  | state (scope : Scope)
  | states
  | reopen
  deriving DecidableEq

/-- What a store answers. -/
inductive Answer where
  | done
  | failed (error : IoError)
  | record (record : Option StateRecord)
  | records (records : List StateRecord)

/-- The answer to a call that may fail. -/
def Answer.ofResult {α : Type} (answer : α → Answer) : Except IoError α → Answer
  | .ok value => answer value
  | .error e => .failed e

/-- The answer to a call, and the store behind it.  A store that does not open leaves the old
one in its place. -/
def perform (s : Store) : Call → Answer × Store
  | .change c => (.ofResult (fun _ => .done) (s.change c).1, (s.change c).2)
  | .state scope => (.ofResult .record (s.find scope), s)
  | .states => (.ofResult .records s.list, s)
  | .reopen =>
    match s.reopen with
    | .ok fresh => (.done, fresh)
    | .error e => (.failed e, s)

/-- The store behind these calls. -/
def performAll (s : Store) (calls : List Call) : Store :=
  calls.foldl (fun s call => (s.perform call).2) s

theorem performAll_concat (s : Store) (calls : List Call) (call : Call) :
    s.performAll (calls ++ [call]) = ((s.performAll calls).perform call).2 := by
  simp [performAll]

/-! ## The map that calls make -/

/-- The scope that is changed. -/
def Change.scope : Change → Scope
  | .set record => record.scope
  | .remove scope => scope

/-- The record that a change leaves its scope with. -/
def Change.record? : Change → Option StateRecord
  | .set record => some record
  | .remove _ => none

/-- What a scope, where `found` was, is left with by a call. -/
def Call.leaves (scope : Scope) (found : Option StateRecord) : Call → Option StateRecord
  | .change c => if scope = c.scope then c.record? else found
  | .state _ | .states | .reopen => found

/-- The record under a scope behind these calls. -/
def held (calls : List Call) (scope : Scope) : Option StateRecord :=
  calls.foldl (Call.leaves scope) none

theorem held_concat (calls : List Call) (call : Call) (scope : Scope) :
    held (calls ++ [call]) scope = call.leaves scope (held calls scope) := by
  simp [held]

/-- Other calls than changes of a scope leave it with what it has. -/
theorem Call.leaves_of_forall_ne {call : Call} {scope : Scope}
    (h : ∀ c, call = .change c → c.scope ≠ scope) (found : Option StateRecord) :
    call.leaves scope found = found := by
  cases call with
  | change c => exact if_neg (h c rfl).symm
  | state _ => rfl
  | states => rfl
  | reopen => rfl

/-- The record under a scope is the last one that was set, and the scope not changed since. -/
theorem held_eq_some_iff {calls : List Call} {scope : Scope} {record : StateRecord} :
    held calls scope = some record ↔
      record.scope = scope ∧ ∃ earlier later,
        calls = earlier ++ .change (.set record) :: later ∧
          ∀ c, .change c ∈ later → c.scope ≠ scope := by
  induction calls using List.reverseRecOn with
  | nil => simp [held]
  | append_singleton calls call ih =>
    rw [held_concat]
    constructor
    case mp =>
      intro hheld
      by_cases hcall : ∃ c, call = .change c ∧ c.scope = scope
      · obtain ⟨c, rfl, hc⟩ := hcall
        cases c with
        | set last =>
          have hlast : last = record := by simpa [Call.leaves, hc.symm, Change.record?] using hheld
          rw [← hlast]
          exact ⟨hc, calls, [], rfl, nofun⟩
        | remove removed => simp [Call.leaves, hc.symm, Change.record?] at hheld
      · have hother : ∀ c, call = .change c → c.scope ≠ scope :=
          fun c hc hscope => hcall ⟨c, hc, hscope⟩
        rw [Call.leaves_of_forall_ne hother] at hheld
        obtain ⟨hscope, earlier, later, rfl, hlater⟩ := ih.1 hheld
        refine ⟨hscope, earlier, later ++ [call], by simp, fun c hc => ?_⟩
        rcases List.mem_append.1 hc with hc | hc
        · exact hlater c hc
        · exact hother c (List.mem_singleton.1 hc).symm
    case mpr =>
      rintro ⟨hscope, earlier, later, hsplit, hlater⟩
      rcases List.eq_nil_or_concat later with rfl | ⟨later, last, rfl⟩
      · obtain ⟨rfl, hlast⟩ := List.append_inj' hsplit rfl
        rw [List.singleton_inj.1 hlast]
        simp [Call.leaves, Change.scope, Change.record?, hscope]
      · rw [List.concat_eq_append, ← List.cons_append, ← List.append_assoc] at hsplit
        obtain ⟨rfl, hlast⟩ := List.append_inj' hsplit rfl
        obtain rfl := List.singleton_inj.1 hlast
        rw [Call.leaves_of_forall_ne fun c hc => hlater c (by simp [hc])]
        exact ih.2 ⟨hscope, earlier, later, rfl, fun c hc => hlater c (by simp [hc])⟩

theorem Change.find?_applyTo (c : Change) (m : Records) (scope : Scope) :
    (c.applyTo m).find? scope = (Call.change c).leaves scope (m.find? scope) := by
  cases c with
  | set record => exact Records.find?_set m record scope
  | remove removed => exact Records.find?_remove m removed scope

/-- An idle change leaves every scope with what it has. -/
theorem Change.leaves_of_idle {c : Change} {s : Store} (hkind : s.kind = .recordFile)
    (h : c.isIdle s) (scope : Scope) :
    (Call.change c).leaves scope (s.records.find? scope) = s.records.find? scope := by
  cases c with
  | set record => simp [isIdle] at h
  | remove removed =>
    have hnone : s.records.find? removed = none := by
      rw [← state?_recordFile hkind]
      exact isIdle_remove.1 h
    by_cases hscope : scope = removed
    · simp [Call.leaves, Change.scope, Change.record?, hscope, hnone]
    · simp [Call.leaves, Change.scope, hscope]

/-- The answers of the map that these calls have made. -/
inductive Serves (calls : List Call) : Call → Answer → Prop where
  | change (c : Change) : Serves calls (.change c) .done
  | state (scope : Scope) : Serves calls (.state scope) (.record (held calls scope))
  /-- Every record under its scope, the scopes ascending and thus once each. -/
  | states {records : List StateRecord} :
      (records.map (·.scope)).Pairwise (· < ·) →
      (∀ record, record ∈ records ↔ held calls record.scope = some record) →
      Serves calls .states (.records records)
  | reopen : Serves calls .reopen .done

/-- The calls that a kind of store is made for. -/
structure Suits (kind : StoreKind) (calls : List Call) : Prop where
  /-- Only what has a file is opened afresh. -/
  backed : .reopen ∈ calls → kind = .recordFile ∨ kind = .database
  /-- A record file counts its records in four octets, which matters when it is read. -/
  counted : kind = .recordFile → ∀ before, before ++ [.reopen] <+: calls →
    ∀ scopes : List Scope, scopes.Nodup → (∀ scope ∈ scopes, (held before scope).isSome) →
      scopes.length < UInt32.size

theorem Suits.start {kind : StoreKind} {calls before : List Call} (h : Suits kind calls)
    (hbefore : before <+: calls) : Suits kind before where
  backed hmem := h.backed (hbefore.subset hmem)
  counted hkind start hstart := h.counted hkind start (hstart.trans hbefore)

/-- The scope that a call changes. -/
def Call.scope? : Call → Option Scope
  | .change c => some c.scope
  | .state _ | .states | .reopen => none

/-- A scope that has a record was set, so there are no more of them than calls. -/
theorem length_le_of_held {calls : List Call} {scopes : List Scope} (hnodup : scopes.Nodup)
    (hheld : ∀ scope ∈ scopes, (held calls scope).isSome) : scopes.length ≤ calls.length := by
  have hsub : scopes ⊆ calls.filterMap Call.scope? := by
    intro scope hscope
    obtain ⟨record, hrecord⟩ := Option.isSome_iff_exists.1 (hheld scope hscope)
    obtain ⟨rfl, earlier, later, rfl, -⟩ := held_eq_some_iff.1 hrecord
    simp [Call.scope?, Change.scope]
  exact (List.subperm_of_subset hnodup hsub).length_le.trans (List.length_filterMap_le _ _)

/-- Fewer than `2 ^ 32` calls never set too many records. -/
theorem Suits.of_length_lt {kind : StoreKind} {calls : List Call}
    (hbacked : .reopen ∈ calls → kind = .recordFile ∨ kind = .database)
    (hlength : calls.length < UInt32.size) : Suits kind calls where
  backed := hbacked
  counted _ before hbefore scopes hnodup hheld := by
    have hle := length_le_of_held hnodup hheld
    have hshorter := hbefore.length_le
    rw [List.length_append] at hshorter
    omega

/-! ## Invariants -/

/-- Whatever holds of a store and its calls, the next call is answered as by the map, and the
same holds behind it. -/
def IsServing (kind : StoreKind) (I : Store → List Call → Prop) : Prop :=
  ∀ s calls call, I s calls → Suits kind (calls ++ [call]) →
    Serves calls call (s.perform call).1 ∧ I (s.perform call).2 (calls ++ [call])

section Run

variable {kind : StoreKind} {I : Store → List Call → Prop} (hserving : IsServing kind I) {s : Store}
  (h : I s [])

include hserving h

theorem IsServing.performAll (calls : List Call) (hsuits : Suits kind calls) :
    I (s.performAll calls) calls := by
  induction calls using List.reverseRecOn with
  | nil => exact h
  | append_singleton calls call ih =>
    rw [performAll_concat]
    exact (hserving _ _ _ (ih (hsuits.start (List.prefix_append _ _))) hsuits).2

theorem IsServing.answers {calls before : List Call} {call : Call} (hsuits : Suits kind calls)
    (hbefore : before ++ [call] <+: calls) :
    Serves before call ((s.performAll before).perform call).1 := by
  have hcalled := hsuits.start hbefore
  have hnow := hserving.performAll h before (hcalled.start (List.prefix_append _ _))
  exact (hserving _ _ _ hnow hcalled).1

end Run

/-! ## Memory -/

/-- A store that has been called so has the map in memory. -/
structure Remembers (s : Store) (calls : List Call) : Prop where
  keyed : s.records.IsKeyed
  found : ∀ scope, s.records.find? scope = held calls scope

namespace Remembers

variable {s : Store} {calls : List Call}

/-- A call that leaves memory as it is and changes nothing in the map. -/
theorem keep (h : Remembers s calls) {call : Call}
    (hfound : ∀ scope, call.leaves scope (held calls scope) = held calls scope) :
    Remembers s (calls ++ [call]) where
  keyed := h.keyed
  found scope := by rw [held_concat, hfound, h.found]

theorem change (h : Remembers s calls) (c : Change) {now : Store}
    (hnow : now.records = c.applyTo s.records) : Remembers now (calls ++ [.change c]) where
  keyed := hnow ▸ c.isKeyed_applyTo h.keyed
  found scope := by
    rw [hnow, held_concat, ← h.found]
    exact c.find?_applyTo s.records scope

theorem serves_state (h : Remembers s calls) {scope : Scope}
    (hfind : s.find scope = .ok (s.records.find? scope)) :
    Serves calls (.state scope) (s.perform (.state scope)).1 := by
  have hanswer : (s.perform (.state scope)).1 = .record (held calls scope) := by
    simp [Store.perform, hfind, Answer.ofResult, h.found]
  rw [hanswer]
  exact .state scope

theorem serves_states (h : Remembers s calls) (hlist : s.list = .ok s.records.values) :
    Serves calls .states (s.perform .states).1 := by
  have hanswer : (s.perform .states).1 = .records s.records.values := by
    simp [Store.perform, hlist, Answer.ofResult]
  have hmem : ∀ record, record ∈ s.records.values ↔ held calls record.scope = some record := by
    intro record
    rw [← h.found]
    exact h.keyed.mem_values_iff
  rw [hanswer]
  exact .states h.keyed.ascending_values hmem

/-- The scopes that memory holds are those that have a record. -/
theorem size_lt (h : Remembers s calls)
    (hcounted : ∀ scopes : List Scope, scopes.Nodup →
      (∀ scope ∈ scopes, (held calls scope).isSome) → scopes.length < UInt32.size) :
    s.records.size < UInt32.size := by
  have hnodup : (s.records.values.map (·.scope)).Nodup :=
    h.keyed.ascending_values.imp fun hlt => Int64.ne_of_lt hlt
  have hheld : ∀ scope ∈ s.records.values.map (·.scope), (held calls scope).isSome := by
    intro scope hscope
    obtain ⟨record, hrecord, rfl⟩ := List.mem_map.1 hscope
    rw [← h.found, h.keyed.mem_values_iff.1 hrecord]
    rfl
  have hlength := hcounted _ hnodup hheld
  simpa [SortedMap.values, SortedMap.size] using hlength

end Remembers

theorem change_memory {s : Store} (hkind : s.kind = .memory) (c : Change) :
    s.change c = (.ok (), { s with records := c.applyTo s.records }) := by
  cases c with
  | set record => simp [change, Store.set, hkind, Change.applyTo]
  | remove scope => simp [change, Store.remove, hkind, Change.applyTo]

theorem memory_isServing :
    IsServing .memory fun s calls => s.kind = .memory ∧ Remembers s calls := by
  rintro s calls call ⟨hkind, h⟩ hsuits
  cases call with
  | change c =>
    simp only [perform, change_memory hkind]
    exact ⟨.change c, hkind, h.change c rfl⟩
  | state scope => exact ⟨h.serves_state (by simp [find, hkind]), hkind, h.keep fun _ => rfl⟩
  | states => exact ⟨h.serves_states (by simp [list, hkind]), hkind, h.keep fun _ => rfl⟩
  | reopen => rcases hsuits.backed (by simp) with hother | hother <;> cases hother

/-! ## Memory and a record file -/

/-- A store with a record file has been called so, and the file could be written all the time. -/
structure Mirrors (s : Store) (calls : List Call) : Prop extends Remembers s calls where
  kind_eq : s.kind = .recordFile
  writable : s.volume.isWritable
  /-- The file holds what memory does.  There is none before a record is set. -/
  filed : s.volume.content = some (.octets (Binary.encode s.records)) ∨
    s.volume.content = none ∧ s.records = ∅ ∧ ∀ record, .change (.set record) ∉ calls

namespace Mirrors

variable {s : Store} {calls : List Call}

/-- A call that leaves the store as it is and changes nothing in the map. -/
theorem keep (h : Mirrors s calls) {call : Call}
    (hfound : ∀ scope, call.leaves scope (held calls scope) = held calls scope)
    (hset : ∀ record, call ≠ .change (.set record)) : Mirrors s (calls ++ [call]) := by
  refine ⟨h.toRemembers.keep hfound, h.kind_eq, h.writable, h.filed.imp_right ?_⟩
  rintro ⟨hnone, hempty, hnever⟩
  refine ⟨hnone, hempty, fun record hmem => ?_⟩
  rcases List.mem_append.1 hmem with hmem | hmem
  · exact hnever record hmem
  · exact hset record (List.mem_singleton.1 hmem).symm

theorem change (h : Mirrors s calls) (c : Change) :
    (s.change c).1 = .ok () ∧ Mirrors (s.change c).2 (calls ++ [.change c]) := by
  rw [change_recordFile h.kind_eq]
  by_cases hidle : c.isIdle s
  · rw [if_pos hidle]
    refine ⟨rfl, h.keep ?_ ?_⟩
    · intro scope
      rw [← h.found]
      exact Change.leaves_of_idle h.kind_eq hidle scope
    · rintro record hset
      obtain rfl := Call.change.inj hset
      simp [Change.isIdle] at hidle
  · rw [if_neg hidle, flush_eq, if_pos h.writable]
    exact ⟨rfl, h.toRemembers.change c rfl, h.kind_eq, h.writable, .inl rfl⟩

/-- Opening the file afresh makes no difference. -/
theorem reopen (h : Mirrors s calls) (hsize : s.records.size < UInt32.size) :
    ∃ fresh, s.reopen = .ok fresh ∧ Mirrors fresh calls := by
  rw [Store.reopen, h.kind_eq]
  rcases h.filed with hfiled | ⟨hnone, hempty, hnever⟩
  · refine ⟨_, load_of_decode hfiled (Binary.decode_encode h.keyed hsize), ?_⟩
    exact ⟨⟨h.keyed, h.found⟩, rfl, h.writable, .inl hfiled⟩
  · refine ⟨{ kind := .recordFile, volume := s.volume, engine := s.engine }, ?_, ?_⟩
    · simp [load, loadRecordFile, hnone, bind, Except.bind, pure, Except.pure]
    · refine ⟨⟨Records.isKeyed_empty, fun scope => ?_⟩, rfl, h.writable, .inr ⟨hnone, rfl, hnever⟩⟩
      rw [← h.found, hempty]

end Mirrors

theorem recordFile_isServing : IsServing .recordFile Mirrors := by
  intro s calls call h hsuits
  have hkind := h.kind_eq
  cases call with
  | change c =>
    obtain ⟨hok, hchanged⟩ := h.change c
    simp only [perform, hok, Answer.ofResult]
    exact ⟨.change c, hchanged⟩
  | state scope =>
    exact ⟨h.serves_state (by simp [find, hkind]), h.keep (fun _ => rfl) (by simp)⟩
  | states => exact ⟨h.serves_states (by simp [list, hkind]), h.keep (fun _ => rfl) (by simp)⟩
  | reopen =>
    have hsize := h.size_lt (hsuits.counted rfl calls List.prefix_rfl)
    obtain ⟨fresh, hfresh, hmirrors⟩ := h.reopen hsize
    simp only [perform, hfresh]
    exact ⟨.reopen, hmirrors.keep (fun _ => rfl) (by simp)⟩

/-- The map alone settles what a record file holds once a record has been set. -/
theorem Mirrors.octets? {s : Store} {calls : List Call} (h : Mirrors s calls)
    (hset : ∃ record, .change (.set record) ∈ calls) :
    s.volume.octets? = some (Binary.encode s.records) := by
  obtain ⟨record, hrecord⟩ := hset
  rcases h.filed with hfiled | ⟨-, -, hnever⟩
  · simp [Volume.octets?, hfiled]
  · exact absurd hrecord (hnever record)

/-! ## Databases -/

/-- These are the records of the map that the calls have made. -/
def Enumerates (records : List StateRecord) (calls : List Call) : Prop :=
  ∀ record, record ∈ records ↔ held calls record.scope = some record

namespace Enumerates

variable {records : List StateRecord} {calls : List Call}

theorem keep (h : Enumerates records calls) {call : Call}
    (hfound : ∀ scope, call.leaves scope (held calls scope) = held calls scope) :
    Enumerates records (calls ++ [call]) := by
  intro record
  rw [held_concat, hfound]
  exact h record

theorem set (h : Enumerates records calls) (r : StateRecord) :
    Enumerates (r :: records.filter fun other => !(other.scope == r.scope))
      (calls ++ [.change (.set r)]) := by
  intro record
  rw [held_concat, List.mem_cons, List.mem_filter, h record]
  by_cases hscope : record.scope = r.scope
  · simp [Call.leaves, Change.scope, Change.record?, hscope, eq_comm]
  · have hne : record ≠ r := fun heq => hscope (congrArg _ heq)
    simp [Call.leaves, Change.scope, hscope, hne]

theorem remove (h : Enumerates records calls) (scope : Scope) :
    Enumerates (records.filter fun r => !(r.scope == scope)) (calls ++ [.change (.remove scope)]) := by
  intro record
  rw [held_concat, List.mem_filter, h record]
  by_cases hscope : record.scope = scope
  · simp [Call.leaves, Change.scope, Change.record?, hscope]
  · simp [Call.leaves, Change.scope, hscope]

/-- Whoever finds the records of a scope has found the one that the map has there. -/
theorem head?_found (h : Enumerates records calls) {scope : Scope} {found : List StateRecord}
    (hfound : found.Perm (records.filter (·.scope == scope))) : found.head? = held calls scope := by
  cases found with
  | nil =>
    cases hheld : held calls scope with
    | none => rfl
    | some record =>
      obtain ⟨rfl, -⟩ := held_eq_some_iff.1 hheld
      have hmem : record ∈ records.filter (·.scope == record.scope) :=
        List.mem_filter.2 ⟨(h record).2 hheld, beq_self_eq_true _⟩
      cases hfound.mem_iff.2 hmem
  | cons record rest =>
    obtain ⟨hmem, hscope⟩ := List.mem_filter.1 (hfound.mem_iff.1 List.mem_cons_self)
    obtain rfl : record.scope = scope := by simpa using hscope
    exact ((h record).1 hmem).symm

end Enumerates

/-- A store with a database has been called so, and the file could be written all the time. -/
structure Tables (kind : StoreKind) (s : Store) (calls : List Call) : Prop where
  kind_eq : s.kind = kind
  isDatabase : kind = .database ∨ kind = .transientDatabase
  documented : s.engine.IsDocumented
  table : ∃ records, StateTable.Tabulates s.database records ∧ Enumerates records calls
  writable : s.volume.isWritable
  /-- The file holds the database. -/
  filed : kind = .database → s.volume.content = some (.database s.database)

theorem query_eq {s : Store} {sql : String} {parameters : List Sqlite.Value}
    {database : Sqlite.Database} {found : List StateRecord}
    (h : s.engine.execute sql parameters s.database =
      .ok (database, found.map StateTable.parameters)) :
    s.query sql parameters = .ok (found.map .ok) := by
  unfold query execute
  rw [h]
  simp [Except.mapError, bind, Except.bind, pure, Except.pure, Function.comp_def,
    StateTable.record_parameters]

theorem mapM_id_map_ok (records : List StateRecord) :
    (records.map (Except.ok : StateRecord → Except IoError StateRecord)).mapM id = .ok records := by
  induction records with
  | nil => rfl
  | cons r rest ih =>
    rw [List.map_cons, List.mapM_cons, ih]
    rfl

namespace Tables

variable {kind : StoreKind} {s : Store} {calls : List Call}

theorem keep (h : Tables kind s calls) {call : Call}
    (hfound : ∀ scope, call.leaves scope (held calls scope) = held calls scope) :
    Tables kind s (calls ++ [call]) := by
  obtain ⟨records, htable, hrecords⟩ := h.table
  exact ⟨h.kind_eq, h.isDatabase, h.documented, ⟨records, htable, hrecords.keep hfound⟩, h.writable,
    h.filed⟩

/-- What is committed is in the file, if there is one. -/
theorem commit (h : Tables kind s calls) {database : Sqlite.Database} {later : List Call}
    (htable : ∃ records, StateTable.Tabulates database records ∧ Enumerates records later) :
    (s.commit database).1 = .ok () ∧ Tables kind (s.commit database).2 later := by
  unfold Store.commit Volume.write
  rw [h.kind_eq]
  rcases h.isDatabase with rfl | rfl
  · rw [if_pos h.writable]
    exact ⟨rfl, rfl, h.isDatabase, h.documented, htable, h.writable, fun _ => rfl⟩
  · exact ⟨rfl, rfl, h.isDatabase, h.documented, htable, h.writable, nofun⟩

theorem alter (h : Tables kind s calls) {sql : String} {parameters : List Sqlite.Value}
    {database : Sqlite.Database} {later : List Call}
    (hexecute : s.engine.execute sql parameters s.database = .ok (database, []))
    (htable : ∃ records, StateTable.Tabulates database records ∧ Enumerates records later) :
    (s.alter sql parameters).1 = .ok () ∧ Tables kind (s.alter sql parameters).2 later := by
  unfold Store.alter execute
  rw [hexecute]
  exact h.commit htable

theorem change (h : Tables kind s calls) (c : Change) :
    (s.change c).1 = .ok () ∧ Tables kind (s.change c).2 (calls ++ [.change c]) := by
  obtain ⟨records, htable, hrecords⟩ := h.table
  cases c with
  | set r =>
    have hset : s.change (.set r) =
        s.alter StateTable.replaceSql (StateTable.parameters r) := by
      rcases h.isDatabase with hkind | hkind <;>
        simp [Store.change, Store.set, h.kind_eq, hkind]
    obtain ⟨database, hexecute, hreplaced⟩ := htable.replace h.documented r
    rw [hset]
    exact h.alter hexecute ⟨_, hreplaced, hrecords.set r⟩
  | remove scope =>
    have hremove : s.change (.remove scope) = s.alter StateTable.deleteSql [.integer scope] := by
      rcases h.isDatabase with hkind | hkind <;>
        simp [Store.change, Store.remove, h.kind_eq, hkind]
    obtain ⟨database, hexecute, hdeleted⟩ := htable.delete h.documented scope
    rw [hremove]
    exact h.alter hexecute ⟨_, hdeleted, hrecords.remove scope⟩

theorem find_eq (h : Tables kind s calls) (scope : Scope) :
    s.find scope = .ok (held calls scope) := by
  obtain ⟨records, htable, hrecords⟩ := h.table
  obtain ⟨database, found, hexecute, hfound⟩ := htable.find h.documented scope
  have hquery := query_eq hexecute
  rw [← hrecords.head?_found hfound]
  rcases h.isDatabase with hkind | hkind
  all_goals
    simp only [Store.find, h.kind_eq, hkind, hquery]
    cases found <;> rfl

theorem list_eq (h : Tables kind s calls) : ∃ listed, s.list = .ok listed ∧
    (listed.map (·.scope)).Pairwise (· < ·) ∧
      ∀ record, record ∈ listed ↔ held calls record.scope = some record := by
  obtain ⟨records, htable, hrecords⟩ := h.table
  obtain ⟨database, listed, hexecute, hperm, hascending⟩ := htable.list h.documented
  have hlist : s.list = (s.query StateTable.listSql []).bind (·.mapM id) := by
    rcases h.isDatabase with hkind | hkind <;> simp [Store.list, h.kind_eq, hkind, bind]
  refine ⟨listed, ?_, hascending, fun record => hperm.mem_iff.trans (hrecords record)⟩
  rw [hlist, query_eq hexecute]
  exact mapM_id_map_ok listed

/-- Opening the file afresh makes no difference. -/
theorem reopen (h : Tables .database s calls) :
    ∃ fresh, s.reopen = .ok fresh ∧ Tables .database fresh calls := by
  obtain ⟨records, htable, hrecords⟩ := h.table
  obtain ⟨database, hexecute, hcreated⟩ :=
    StateTable.Tabulates.create h.documented (.inr htable)
  let volume : Volume := { content := some (.database database) }
  refine ⟨{ kind := .database, volume, engine := s.engine, database }, ?_, ?_⟩
  · rw [Store.reopen, h.kind_eq]
    simp [load, loadDatabase, execute, h.filed rfl, h.documented.opensWritten, hexecute,
      Except.mapError, bind, Except.bind, pure, Except.pure, Volume.write, h.writable, volume]
  · exact ⟨rfl, h.isDatabase, h.documented, ⟨records, hcreated, hrecords⟩, rfl, fun _ => rfl⟩

end Tables

theorem database_isServing (kind : StoreKind) : IsServing kind (Tables kind) := by
  intro s calls call h hsuits
  cases call with
  | change c =>
    obtain ⟨hok, hchanged⟩ := h.change c
    simp only [perform, hok, Answer.ofResult]
    exact ⟨.change c, hchanged⟩
  | state scope =>
    simp only [perform, h.find_eq, Answer.ofResult]
    exact ⟨.state scope, h.keep fun _ => rfl⟩
  | states =>
    obtain ⟨listed, hlist, hascending, hmem⟩ := h.list_eq
    simp only [perform, hlist, Answer.ofResult]
    exact ⟨.states hascending hmem, h.keep fun _ => rfl⟩
  | reopen =>
    obtain rfl : kind = .database := by
      rcases h.isDatabase, hsuits.backed (by simp) with ⟨rfl | rfl, hother | hother⟩ <;>
        first | rfl | cases hother
    obtain ⟨fresh, hfresh, htables⟩ := h.reopen
    simp only [perform, hfresh]
    exact ⟨.reopen, htables.keep fun _ => rfl⟩

/-! ## All kinds -/

/-- What holds of a store that is called so, from its first opening on. -/
structure ActsAsMap (kind : StoreKind) (s : Store) (calls : List Call) : Prop where
  /-- Every call is answered as by the map that the calls before it have made. -/
  answers : ∀ before call, before ++ [call] <+: calls →
    Serves before call ((s.performAll before).perform call).1
  /-- A record file is the same, octet for octet, as behind any other calls that make the same
  map, once a record has been set by both. -/
  sameFile : kind = .recordFile → (∃ record, .change (.set record) ∈ calls) →
    ∀ others, Suits .recordFile others → (∃ record, .change (.set record) ∈ others) →
      (∀ scope, held others scope = held calls scope) →
      ∃ octets, (s.performAll calls).volume.octets? = some octets ∧
        (s.performAll others).volume.octets? = some octets

theorem exists_load_database {engine : Sqlite.Engine} (h : engine.IsDocumented) {kind : StoreKind}
    (hkind : kind = .database ∨ kind = .transientDatabase) :
    ∃ s, load kind {} engine = .ok s ∧ Tables kind s [] := by
  obtain ⟨database, hexecute, hcreated⟩ :=
    StateTable.Tabulates.create h (.inl ⟨(rfl : (∅ : Sqlite.Database).get? _ = none), rfl⟩)
  have htable : ∃ records, StateTable.Tabulates database records ∧ Enumerates records [] :=
    ⟨[], hcreated, fun record => by simp [held]⟩
  rcases hkind with rfl | rfl
  · let volume : Volume := { content := some (.database database) }
    refine ⟨{ kind := .database, volume, engine, database }, ?_, rfl, .inl rfl, h, htable, rfl,
      fun _ => rfl⟩
    simp [load, loadDatabase, execute, h.opensEmpty, hexecute, Except.mapError, bind, Except.bind,
      pure, Except.pure, Volume.write, volume]
  · refine ⟨{ kind := .transientDatabase, engine, database }, ?_, rfl, .inr rfl, h, htable, rfl,
      nofun⟩
    simp [load, execute, hexecute, Except.mapError, bind, Except.bind, pure, Except.pure]

/-- Opened where there is nothing yet, every kind of store serves its callers. -/
theorem exists_isServing {engine : Sqlite.Engine} (h : engine.IsDocumented) (kind : StoreKind) :
    ∃ s I, load kind {} engine = .ok s ∧ IsServing kind I ∧ I s [] ∧
      (kind = .recordFile → I = Mirrors) := by
  cases kind with
  | memory =>
    exact ⟨_, _, rfl, memory_isServing, ⟨rfl, Records.isKeyed_empty, fun _ => rfl⟩, nofun⟩
  | recordFile =>
    exact ⟨_, _, rfl, recordFile_isServing,
      ⟨⟨Records.isKeyed_empty, fun _ => rfl⟩, rfl, rfl, .inr ⟨rfl, rfl, nofun⟩⟩, fun _ => rfl⟩
  | database =>
    obtain ⟨s, hload, htables⟩ := exists_load_database h (.inl rfl)
    exact ⟨s, _, hload, database_isServing _, htables, nofun⟩
  | transientDatabase =>
    obtain ⟨s, hload, htables⟩ := exists_load_database h (.inr rfl)
    exact ⟨s, _, hload, database_isServing _, htables, nofun⟩

/-- Two records, the file opened afresh, and then one record less. -/
def accountComesAndGoes : List Call :=
  [.change (.set { scope := .account, pts := 12, date := some 1001 }),
    .change (.set { scope := Scope.ofChannel 123, pts := 500 }), .reopen,
    .change (.remove .account), .states]

end Store

end UpdatePipeline
