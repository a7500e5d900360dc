import UpdatePipeline.AssocMap
import UpdatePipeline.Error
import UpdatePipeline.Store.Binary
set_option autoImplicit false

/-!
# Store: SQLite as its callers know it

A database is a set of named tables, and a table a set of rows; what is asked of it is spelled in
SQL, with question marks for the parameters.  The engine itself is not looked into: an `Engine` is
whatever opens files, reads texts and runs statements.
-/

namespace UpdatePipeline

namespace Sqlite

/-! ## Tables -/

/-- What stands in a column. -/
inductive Value where
  | null
  | integer (value : Int64)
  deriving DecidableEq, Repr, Inhabited

/-- The order of values: nothing comes before `null`. -/
def Value.le : Value → Value → Bool
  | .null, _ => true
  | .integer _, .null => false
  | .integer a, .integer b => a.toInt ≤ b.toInt

/-- A row, as its values in the order of the columns. -/
abbrev Row := List Value

/-- A column of integers. -/
structure Column where
  name : String
  /-- Whether it tells the rows apart. -/
  isKey : Bool := false
  isRequired : Bool := false
  deriving DecidableEq, Repr, Inhabited

/-- A table.  The order of its rows means nothing. -/
structure Table where
  columns : List Column
  rows : List Row := []
  deriving DecidableEq, Repr, Inhabited

namespace Table

/-- The value of a row in a column. -/
def value (t : Table) (row : Row) (column : String) : Value :=
  (((t.columns.map (·.name)).zip row).lookup column).getD .null

/-- The row with these parameters in these columns, and nothing in the others. -/
def arrange (t : Table) (columns : List String) (parameters : List Value) : Row :=
  t.columns.map fun c => ((columns.zip parameters).lookup c.name).getD .null

/-- Whether a row may stand in the table. -/
def admits (t : Table) (row : Row) : Bool :=
  t.columns.all fun c => !(c.isKey || c.isRequired) || t.value row c.name != .null

/-- Whether two rows have one key. -/
def sameKey (t : Table) (row other : Row) : Bool :=
  t.columns.any fun c => c.isKey && t.value row c.name == t.value other c.name

/-- Whether the column named, if any, has the first parameter as its value. -/
def meets (t : Table) (only : Option String) (parameters : List Value) (row : Row) : Bool :=
  match only, parameters with
  | none, _ => true
  | some column, p :: _ => p != .null && t.value row column == p
  | some _, [] => false

end Table

/-- A database, as its tables by name. -/
abbrev Database := AssocMap String Table

/-! ## Statements -/

/-- A statement.  The first parameter is what `only` is compared with. -/
inductive Statement where
  /-- `CREATE TABLE IF NOT EXISTS table (columns)` -/
  | create (table : String) (columns : List Column)
  /-- `REPLACE INTO table (columns) VALUES (?1, ?2, …)` -/
  | replace (table : String) (columns : List String)
  /-- `SELECT columns FROM table WHERE only = ?1 ORDER BY order` -/
  | select (columns : List String) (table : String) (only order : Option String := none)
  /-- `DELETE FROM table WHERE only = ?1` -/
  | delete (table : String) (only : String)
  deriving DecidableEq, Repr, Inhabited

/-- What goes wrong with a statement or with its rows. -/
inductive Fault where
  /-- The engine's own report. -/
  | reported (message : String)
  | noColumn (index : Nat)
  | wrongType (index : Nat)
  | outOfRange (index : Nat) (value : Int64)
  deriving DecidableEq, Repr, Inhabited

/-- The wording. -/
def Fault.message : Fault → String
  | .reported message => message
  | .noColumn index => s!"Invalid column index: {index}"
  | .wrongType index => s!"Invalid column type at index: {index}"
  | .outOfRange index value => s!"Integer {value} out of range at index {index}"

/-- The error that the caller of a store sees. -/
def Fault.toIoError (fault : Fault) : IoError := ⟨.other, fault.message⟩

end Sqlite

/-- What a backing file holds. -/
inductive FileContent where
  | octets (octets : Binary.Octets)
  /-- This database; its pages are not looked into. -/
  | database (database : Sqlite.Database)

namespace Sqlite

/-! ## Engines -/

/-- What opens files as databases, reads texts as statements and runs statements. -/
structure Engine where
  openFile : FileContent → Except Fault Database
  read : String → Except Fault Statement
  run : Statement → List Value → Database → Except Fault (Database × List Row)

/-- Runs the statement that a text spells. -/
def Engine.execute (e : Engine) (sql : String) (parameters : List Value) (database : Database) :
    Except Fault (Database × List Row) := do
  e.run (← e.read sql) parameters database

/-- The table with this name. -/
def tableNamed (name : String) (database : Database) : Except Fault Table :=
  match database.get? name with
  | some table => .ok table
  | none => .error (.reported s!"no such table: {name}")

/-- Runs a statement. -/
def runPlainly : Statement → List Value → Database → Except Fault (Database × List Row)
  | .create name columns, _, database =>
    match database.get? name with
    | some _ => .ok (database, [])
    | none => .ok (database.insert name { columns }, [])
  | .replace name columns, parameters, database => do
    let table ← tableNamed name database
    let row := table.arrange columns parameters
    if table.admits row then
      let rows := row :: table.rows.filter fun other => !table.sameKey other row
      return (database.insert name { table with rows }, [])
    else .error (.reported s!"NOT NULL constraint failed: {name}")
  | .select columns name only order, parameters, database => do
    let table ← tableNamed name database
    let rows := table.rows.filter (table.meets only parameters)
    let rows := match order with
      | some column => rows.mergeSort fun a b => (table.value a column).le (table.value b column)
      | none => rows
    return (database, rows.map fun row => columns.map (table.value row))
  | .delete name only, parameters, database => do
    let table ← tableNamed name database
    let rows := table.rows.filter fun row => !table.meets (some only) parameters row
    return (database.insert name { table with rows }, [])

end Sqlite

end UpdatePipeline
