import UpdatePipeline.Store.Record
import UpdatePipeline.Store.Sqlite
set_option autoImplicit false

/-!
# Store: the table of a database

A database keeps the records in one table, a row each, with the scope as the key.
-/

namespace UpdatePipeline.StateTable

open Sqlite (Value Row Column Statement Fault Database Engine)

/-! ## What a store says to a database -/

/-- Makes the table. -/
def createSql : String :=
  "CREATE TABLE IF NOT EXISTS update_state (\n" ++
  "                    id   INTEGER PRIMARY KEY,\n" ++
  "                    pts  INTEGER NOT NULL,\n" ++
  "                    qts  INTEGER,\n" ++
  "                    date INTEGER\n" ++
  "                );"

/-- Puts a record in, over that of its scope. -/
def replaceSql : String := "REPLACE INTO update_state (id, pts, qts, date) VALUES (?1, ?2, ?3, ?4)"

/-- Asks for the record of a scope. -/
def findSql : String := "SELECT id, pts, qts, date FROM update_state WHERE id = ?1"

/-- Asks for all records, ascending by scope. -/
def listSql : String := "SELECT id, pts, qts, date FROM update_state ORDER BY id"

/-- Takes the record of a scope out. -/
def deleteSql : String := "DELETE FROM update_state WHERE id = ?1"

/-- The table's name. -/
def name : String := "update_state"

/-- The columns of the table. -/
def columns : List Column :=
  [{ name := "id", isKey := true }, { name := "pts", isRequired := true }, { name := "qts" },
    { name := "date" }]

/-- The columns that a record fills. -/
def fields : List String := ["id", "pts", "qts", "date"]

/-- The statements that the texts spell. -/
def spelled : List (String × Statement) :=
  [(createSql, .create name columns), (replaceSql, .replace name fields),
    (findSql, .select fields name (some "id")), (listSql, .select fields name none (some "id")),
    (deleteSql, .delete name "id")]

/-! ## Records as rows -/

/-- A value that may be missing. -/
def ofOption : Option Int32 → Value
  | some v => .integer v.toInt64
  | none => .null

/-- The parameters for a record, in the order of `fields`. -/
def parameters (r : StateRecord) : List Value :=
  [.integer r.scope, .integer r.pts.toInt64, ofOption r.qts, ofOption r.date]

/-- The value in one column of a row. -/
def column (row : Row) (index : Nat) : Except Fault Value :=
  match row[index]? with
  | some v => .ok v
  | none => .error (.noColumn index)

/-- The 64 bits in one column of a row. -/
def int64 (row : Row) (index : Nat) : Except Fault Int64 := do
  match ← column row index with
  | .integer v => .ok v
  | .null => .error (.wrongType index)

/-- The 32 bits in one column of a row. -/
def int32 (row : Row) (index : Nat) : Except Fault Int32 := do
  let v ← int64 row index
  if v.toInt32.toInt64 = v then .ok v.toInt32 else .error (.outOfRange index v)

/-- The 32 bits in one column of a row, if there is anything. -/
def optionalInt32 (row : Row) (index : Nat) : Except Fault (Option Int32) := do
  match ← column row index with
  | .null => .ok none
  | .integer _ => return some (← int32 row index)

/-- The record in a row. -/
def record (row : Row) : Except Fault StateRecord := do
  return {
    scope := ← int64 row 0
    pts := ← int32 row 1
    qts := ← optionalInt32 row 2
    date := ← optionalInt32 row 3 }

/-! ## An engine -/

/-- An engine that knows these statements and nothing else. -/
def engine : Engine where
  openFile
    | .octets [] => .ok ∅
    | .database database => .ok database
    | .octets _ => .error (.reported "file is not a database")
  read sql :=
    match spelled.lookup sql with
    | some statement => .ok statement
    | none => .error (.reported s!"syntax error in {sql}")
  run := Sqlite.runPlainly

end UpdatePipeline.StateTable
