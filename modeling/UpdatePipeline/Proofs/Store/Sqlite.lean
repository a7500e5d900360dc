import Mathlib.Data.List.Perm.Basic
import Mathlib.Data.Set.List
import UpdatePipeline.Store.Backend
set_option autoImplicit false

/-!
# What is relied on of SQLite

SQLite documents what its statements do with a table; in which order the rows of a table come is
left open where no order is asked for (`Sqlite.Engine.IsDocumented`).  From that follows what the
statements of a store do with the records in its table (`StateTable.Tabulates`): the table keeps
one row for each scope, and a row is read back as the record that it was made of
(`StateTable.record_parameters`).
-/

namespace UpdatePipeline

namespace Sqlite

/-- The statements do to a table what is documented of them. -/
structure RunsTables
    (run : Statement → List Value → Database → Except Fault (Database × List Row)) : Prop where
  /-- A table that is there stays as it is. -/
  create : ∀ name columns database, ∃ database',
    run (.create name columns) [] database = .ok (database', []) ∧
      database'.get? name = some ((database.get? name).getD { columns })
  /-- The new row takes the place of those with its key. -/
  replace : ∀ name columns parameters database table, database.get? name = some table →
    table.admits (table.arrange columns parameters) →
    ∃ (database' : Database) (rows : List Row),
      run (.replace name columns) parameters database = .ok (database', []) ∧
      database'.get? name = some { table with rows } ∧
      rows.Perm (table.arrange columns parameters ::
        table.rows.filter fun row => !table.sameKey row (table.arrange columns parameters))
  /-- The rows that meet the condition come in the order asked for, and in any otherwise. -/
  select : ∀ columns name only order parameters database table, database.get? name = some table →
    ∃ (database' : Database) (rows : List Row),
      run (.select columns name only order) parameters database =
        .ok (database', rows.map fun row => columns.map (table.value row)) ∧
      rows.Perm (table.rows.filter (table.meets only parameters)) ∧
      ∀ column, order = some column →
        rows.Pairwise fun a b => (table.value a column).le (table.value b column)
  /-- The rows that meet the condition go. -/
  delete : ∀ name only parameters database table, database.get? name = some table →
    ∃ (database' : Database) (rows : List Row),
      run (.delete name only) parameters database = .ok (database', []) ∧
      database'.get? name = some { table with rows } ∧
      rows.Perm (table.rows.filter fun row => !table.meets (some only) parameters row)

/-- The engine does what is documented of it. -/
structure Engine.IsDocumented (e : Engine) : Prop where
  /-- An empty file is an empty database. -/
  opensEmpty : e.openFile (.octets []) = .ok ∅
  /-- What has been written to a file is found there. -/
  opensWritten : ∀ database, e.openFile (.database database) = .ok database
  reads : ∀ spelling ∈ StateTable.spelled, e.read spelling.1 = .ok spelling.2
  runs : RunsTables e.run

theorem Engine.IsDocumented.execute_eq {e : Engine} (h : e.IsDocumented) (sql : String)
    (statement : Statement) (hspelled : (sql, statement) ∈ StateTable.spelled)
    (parameters : List Value) (database : Database) :
    e.execute sql parameters database = e.run statement parameters database := by
  have hread : e.read sql = .ok statement := h.reads _ hspelled
  unfold Engine.execute
  rw [hread]
  rfl

/-! ## The plain engine -/

theorem Value.le_trans (a b c : Value) (hab : a.le b) (hbc : b.le c) : a.le c := by
  cases a <;> cases b <;> cases c <;> simp [Value.le] at hab hbc ⊢
  omega

theorem Value.le_total (a b : Value) : a.le b || b.le a := by
  cases a <;> cases b <;> simp [Value.le]
  omega

theorem runsTables_runPlainly : RunsTables runPlainly where
  create name columns database := by
    simp only [runPlainly]
    cases hfound : database.get? name with
    | some table => exact ⟨_, rfl, hfound⟩
    | none => exact ⟨_, rfl, by simp⟩
  replace name columns parameters database table htable hadmits := by
    let rows := table.arrange columns parameters ::
      table.rows.filter fun row => !table.sameKey row (table.arrange columns parameters)
    refine ⟨database.insert name { table with rows }, rows, ?_, by simp, List.Perm.refl _⟩
    simp only [runPlainly, tableNamed, htable, bind, Except.bind, hadmits, if_true]
    rfl
  select columns name only order parameters database table htable := by
    simp only [runPlainly, tableNamed, htable, bind, Except.bind]
    cases order with
    | none => exact ⟨_, _, rfl, List.Perm.refl _, nofun⟩
    | some column =>
      refine ⟨_, _, rfl, List.mergeSort_perm _ _, ?_⟩
      rintro _ ⟨⟩
      exact List.pairwise_mergeSort
        (fun a b c => Value.le_trans (table.value a column) (table.value b column)
          (table.value c column))
        (fun a b => Value.le_total (table.value a column) (table.value b column)) _
  delete name only parameters database table htable := by
    let rows := table.rows.filter fun row => !table.meets (some only) parameters row
    refine ⟨database.insert name { table with rows }, rows, ?_, by simp, List.Perm.refl _⟩
    simp only [runPlainly, tableNamed, htable, bind, Except.bind]
    rfl

end Sqlite

namespace StateTable

open Sqlite (Value Row Table Database Engine)

theorem engine_isDocumented : engine.IsDocumented where
  opensEmpty := rfl
  opensWritten database := rfl
  reads := by
    intro spelling h
    have hnodup : (spelled.map (·.1)).Nodup := by decide
    have hfound : spelled.lookup spelling.1 = some spelling.2 :=
      (AssocMap.lookup_eq_some_iff_mem hnodup).2 h
    simp only [engine, hfound]
  runs := Sqlite.runsTables_runPlainly

/-! ## The table of the records -/

/-- The table when these are its rows. -/
def tableOf (rows : List Row) : Table := { columns, rows }

section Rows

variable (rows : List Row) (r : StateRecord)

theorem arrange_parameters : (tableOf rows).arrange fields (parameters r) = parameters r := by
  simp [Table.arrange, tableOf, columns, fields, parameters, List.lookup_cons]

theorem value_id : (tableOf rows).value (parameters r) "id" = .integer r.scope := by
  simp [Table.value, tableOf, columns, parameters]

theorem admits_parameters : (tableOf rows).admits (parameters r) := by
  simp [Table.admits, Table.value, tableOf, columns, parameters, List.lookup_cons]

/-- The key of a row is its scope. -/
theorem sameKey_parameters (other : StateRecord) :
    (tableOf rows).sameKey (parameters r) (parameters other) = (r.scope == other.scope) := by
  simp [Table.sameKey, Table.value, tableOf, columns, parameters]

theorem meets_parameters (scope : Scope) :
    (tableOf rows).meets (some "id") [.integer scope] (parameters r) = (r.scope == scope) := by
  rw [Table.meets, value_id, Bool.eq_iff_iff]
  simp

theorem project_parameters :
    fields.map ((tableOf rows).value (parameters r)) = parameters r := by
  simp [Table.value, tableOf, columns, fields, parameters, List.lookup_cons]

/-- A row is read back as the record that it was made of. -/
theorem record_parameters : record (parameters r) = .ok r := by
  obtain ⟨scope, pts, qts, date⟩ := r
  cases qts <;> cases date <;>
    simp [record, parameters, int64, int32, optionalInt32, column, ofOption, bind, Except.bind,
      pure, Except.pure]

theorem parameters_injective : Function.Injective parameters := by
  intro a b hab
  have hrecord := congrArg record hab
  rw [record_parameters, record_parameters] at hrecord
  exact Except.ok.inj hrecord

end Rows

/-- These records, in whatever order, are the rows of the table. -/
def Fills (records : List StateRecord) (rows : List Row) : Prop :=
  rows.Perm (records.map parameters)

theorem Fills.exists_listed {records : List StateRecord} {rows : List Row} (h : Fills records rows) :
    ∃ listed : List StateRecord, rows = listed.map parameters ∧ listed.Perm records := by
  have hrange : rows ∈ Set.range (List.map parameters) := by
    rw [Set.range_list_map]
    intro row hrow
    obtain ⟨r, -, rfl⟩ := List.mem_map.1 (h.mem_iff.1 hrow)
    exact ⟨r, rfl⟩
  obtain ⟨listed, rfl⟩ := hrange
  exact ⟨listed, rfl, (List.map_perm_map_iff parameters_injective).1 h⟩

/-- Rows are chosen as their records are. -/
theorem Fills.filter {records : List StateRecord} {rows : List Row} (h : Fills records rows)
    (p : Row → Bool) (q : StateRecord → Bool) (hpq : ∀ r, p (parameters r) = q r) :
    Fills (records.filter q) (rows.filter p) := by
  have hcomp : p ∘ parameters = q := funext hpq
  have hfilter := List.Perm.filter p h
  rwa [List.filter_map, hcomp] at hfilter

/-- The table of the database keeps these records, no scope twice. -/
structure Tabulates (database : Database) (records : List StateRecord) : Prop where
  table : ∃ rows, database.get? name = some (tableOf rows) ∧ Fills records rows
  nodup : (records.map (·.scope)).Nodup

namespace Tabulates

variable {e : Engine} (he : e.IsDocumented) {database : Database} {records : List StateRecord}

include he

/-- A database without the table gets it, and a table that is there is kept. -/
theorem create (h : database.get? name = none ∧ records = [] ∨ Tabulates database records) :
    ∃ database', e.execute createSql [] database = .ok (database', []) ∧
      Tabulates database' records := by
  obtain ⟨database', hrun, hget⟩ := he.runs.create name columns database
  rw [he.execute_eq createSql (.create name columns) (by simp [spelled])]
  refine ⟨database', hrun, ?_⟩
  rcases h with ⟨hnone, rfl⟩ | ⟨⟨rows, htable, hfills⟩, hnodup⟩
  · rw [hnone] at hget
    exact ⟨⟨[], hget, List.Perm.refl _⟩, List.nodup_nil⟩
  · rw [htable] at hget
    exact ⟨⟨rows, hget, hfills⟩, hnodup⟩

variable (h : Tabulates database records)

include h

theorem replace (r : StateRecord) :
    ∃ database', e.execute replaceSql (parameters r) database = .ok (database', []) ∧
      Tabulates database' (r :: records.filter fun other => !(other.scope == r.scope)) := by
  obtain ⟨rows, htable, hfills⟩ := h.table
  have hadmits : (tableOf rows).admits ((tableOf rows).arrange fields (parameters r)) := by
    rw [arrange_parameters]
    exact admits_parameters rows r
  obtain ⟨database', rows', hrun, hget, hperm⟩ :=
    he.runs.replace name fields (parameters r) database _ htable hadmits
  rw [arrange_parameters] at hperm
  have hothers := hfills.filter (fun row => !(tableOf rows).sameKey row (parameters r))
    (fun other => !(other.scope == r.scope))
    fun other => congrArg not (sameKey_parameters rows other r)
  rw [he.execute_eq replaceSql (.replace name fields) (by simp [spelled])]
  refine ⟨database', hrun, ⟨rows', hget, hperm.trans (hothers.cons _)⟩, ?_⟩
  rw [List.map_cons, List.nodup_cons]
  refine ⟨?_, h.nodup.sublist (List.filter_sublist.map _)⟩
  intro hmem
  obtain ⟨other, hother, hscope⟩ := List.mem_map.1 hmem
  simp [hscope] at hother

theorem delete (scope : Scope) :
    ∃ database', e.execute deleteSql [.integer scope] database = .ok (database', []) ∧
      Tabulates database' (records.filter fun r => !(r.scope == scope)) := by
  obtain ⟨rows, htable, hfills⟩ := h.table
  obtain ⟨database', rows', hrun, hget, hperm⟩ :=
    he.runs.delete name "id" [.integer scope] database _ htable
  have hothers := hfills.filter
    (fun row => !(tableOf rows).meets (some "id") [.integer scope] row)
    (fun r => !(r.scope == scope)) fun r => congrArg not (meets_parameters rows r scope)
  rw [he.execute_eq deleteSql (.delete name "id") (by simp [spelled])]
  exact ⟨database', hrun, ⟨rows', hget, hperm.trans hothers⟩,
    h.nodup.sublist (List.filter_sublist.map _)⟩

theorem find (scope : Scope) :
    ∃ database' found, e.execute findSql [.integer scope] database =
        .ok (database', List.map parameters found) ∧
      found.Perm (records.filter (·.scope == scope)) := by
  obtain ⟨rows, htable, hfills⟩ := h.table
  obtain ⟨database', rows', hrun, hperm, -⟩ :=
    he.runs.select fields name (some "id") none [.integer scope] database _ htable
  have hfound : Fills (records.filter (·.scope == scope)) rows' :=
    hperm.trans (hfills.filter _ _ fun r => meets_parameters rows r scope)
  obtain ⟨found, rfl, hrecords⟩ := hfound.exists_listed
  rw [he.execute_eq findSql (.select fields name (some "id")) (by simp [spelled])]
  refine ⟨database', found, ?_, hrecords⟩
  rw [hrun, List.map_map]
  simp only [Function.comp_def, project_parameters]

theorem list :
    ∃ database' listed, e.execute listSql [] database = .ok (database', List.map parameters listed) ∧
      listed.Perm records ∧ (listed.map (·.scope)).Pairwise (· < ·) := by
  obtain ⟨rows, htable, hfills⟩ := h.table
  obtain ⟨database', rows', hrun, hperm, hsorted⟩ :=
    he.runs.select fields name none (some "id") [] database _ htable
  have hall : (tableOf rows).rows.filter ((tableOf rows).meets none []) = rows :=
    List.filter_eq_self.2 fun _ _ => rfl
  rw [hall] at hperm
  have hlisted : Fills records rows' := hperm.trans hfills
  obtain ⟨listed, rfl, hrecords⟩ := hlisted.exists_listed
  rw [he.execute_eq listSql (.select fields name none (some "id")) (by simp [spelled])]
  refine ⟨database', listed, ?_, hrecords, ?_⟩
  · rw [hrun, List.map_map]
    simp only [Function.comp_def, project_parameters]
  · have hnodup : (listed.map (·.scope)).Nodup := (hrecords.map _).nodup_iff.2 h.nodup
    have hle := hsorted "id" rfl
    rw [List.pairwise_map] at hle ⊢
    rw [List.Nodup, List.pairwise_map] at hnodup
    refine (hle.and hnodup).imp ?_
    rintro a b ⟨hab, hne⟩
    rw [value_id, value_id] at hab
    have hle : a.scope.toInt ≤ b.scope.toInt := by simpa [Value.le] using hab
    have hne' : a.scope.toInt ≠ b.scope.toInt := fun heq => hne (Int64.toInt_inj.1 heq)
    exact Int64.lt_iff_toInt_lt.2 (by omega)

end Tabulates

end StateTable

end UpdatePipeline
