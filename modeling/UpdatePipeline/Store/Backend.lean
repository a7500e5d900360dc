import UpdatePipeline.Store.StateTable
set_option autoImplicit false

/-!
# Store: where records are kept

A store keeps its records in memory, in memory and in a file, or in a database.  A record file is
rewritten as a whole after each change of the records, and a change stays in memory even if that
fails.  A database changes only together with its file.
-/

namespace UpdatePipeline

/-! ## The backing file -/

/-- The place of a backing file. -/
structure Volume where
  /-- Whether the directory is there to be written to. -/
  isWritable : Bool := true
  content : Option FileContent := none

namespace Volume

/-- Replaces the file, which takes the directory. -/
def write (v : Volume) (content : FileContent) : Except IoError Volume :=
  if v.isWritable then .ok { v with content := some content } else .error IoError.missingFile

/-- The volume once the directory is gone with everything in it. -/
def lose (_ : Volume) : Volume := { isWritable := false }

/-- The volume once the directory is there. -/
def restore (v : Volume) : Volume := { v with isWritable := true }

/-- The octets of the file, if there is one and they are known. -/
def octets? (v : Volume) : Option Binary.Octets :=
  match v.content with
  | some (.octets octets) => some octets
  | _ => none

end Volume

/-! ## Stores -/

/-- The kinds of stores. -/
inductive StoreKind where
  | memory
  | recordFile
  | database
  /-- A database without a file. -/
  | transientDatabase
  deriving DecidableEq, Repr, Inhabited

/-- The kind as it is shown. -/
def StoreKind.name : StoreKind → String
  | .memory => "in-memory"
  | .recordFile => "binary-file"
  | .database | .transientDatabase => "sqlite"

/-- A store with its volume. -/
structure Store where
  kind : StoreKind
  /-- What is held in memory, by all but databases. -/
  records : Records := ∅
  volume : Volume := {}
  /-- What runs a database. -/
  engine : Sqlite.Engine := StateTable.engine
  /-- What a database holds. -/
  database : Sqlite.Database := ∅

namespace Store

/-! ### Record files -/

/-- The records in a record file; without a file there are none. -/
def loadRecordFile (v : Volume) : Except IoError Records :=
  match v.content with
  | none => .ok ∅
  | some (.octets octets) =>
    match Binary.decode octets with
    | .ok records => .ok records
    | .error fault => .error ⟨.invalidData, fault.message⟩
  | some (.database _) => .error ⟨.invalidData, Binary.Fault.truncated.message⟩

/-- Writes the records in memory to the file. -/
def flush (s : Store) : Except IoError Unit × Store :=
  match s.volume.write (.octets (Binary.encode s.records)) with
  | .ok volume => (.ok (), { s with volume })
  | .error e => (.error e, s)

/-! ### Databases -/

/-- What an engine makes of an SQL text, with its faults as failures. -/
def execute (engine : Sqlite.Engine) (sql : String) (parameters : List Sqlite.Value)
    (database : Sqlite.Database) : Except IoError (Sqlite.Database × List Sqlite.Row) :=
  (engine.execute sql parameters database).mapError Sqlite.Fault.toIoError

/-- The database in a file, which is made if there is none, with the table of the records. -/
def loadDatabase (engine : Sqlite.Engine) (v : Volume) :
    Except IoError (Sqlite.Database × Volume) := do
  let found ← (engine.openFile (v.content.getD (.octets []))).mapError Sqlite.Fault.toIoError
  let (database, _) ← execute engine StateTable.createSql [] found
  let v ← v.write (.database database)
  return (database, v)

/-- The database of a store once it has changed, in its file too if it has one. -/
def commit (s : Store) (database : Sqlite.Database) : Except IoError Unit × Store :=
  match s.kind with
  | .database =>
    match s.volume.write (.database database) with
    | .ok volume => (.ok (), { s with database, volume })
    | .error e => (.error e, s)
  | _ => (.ok (), { s with database })

/-- Has the database changed by what an SQL text spells. -/
def alter (s : Store) (sql : String) (parameters : List Sqlite.Value) :
    Except IoError Unit × Store :=
  match execute s.engine sql parameters s.database with
  | .ok (database, _) => s.commit database
  | .error e => (.error e, s)

/-- The records in the rows that an SQL text asks for. -/
def query (s : Store) (sql : String) (parameters : List Sqlite.Value) :
    Except IoError (List (Except IoError StateRecord)) := do
  let (_, rows) ← execute s.engine sql parameters s.database
  return rows.map fun row => (StateTable.record row).mapError Sqlite.Fault.toIoError

/-! ### All kinds -/

/-- Opens a store on a volume. -/
def load (kind : StoreKind) (volume : Volume) (engine : Sqlite.Engine := StateTable.engine) :
    Except IoError Store :=
  match kind with
  | .memory => .ok { kind, volume, engine }
  | .recordFile => do
    let records ← loadRecordFile volume
    return { kind, records, volume, engine }
  | .database => do
    let (database, volume) ← loadDatabase engine volume
    return { kind, volume, engine, database }
  | .transientDatabase => do
    let (database, _) ← execute engine StateTable.createSql [] ∅
    return { kind, volume, engine, database }

/-- Stores a record, over that of its scope. -/
def set (s : Store) (record : StateRecord) : Except IoError Unit × Store :=
  match s.kind with
  | .memory => (.ok (), { s with records := s.records.set record })
  | .recordFile => { s with records := s.records.set record }.flush
  | .database | .transientDatabase => s.alter StateTable.replaceSql (StateTable.parameters record)

/-- Asks for the record of a scope. -/
def find (s : Store) (scope : Scope) : Except IoError (Option StateRecord) :=
  match s.kind with
  | .memory | .recordFile => .ok (s.records.find? scope)
  | .database | .transientDatabase => do
    match ← s.query StateTable.findSql [.integer scope] with
    | [] => return none
    | record :: _ => return some (← record)

/-- Asks for all records, ascending by scope. -/
def list (s : Store) : Except IoError (List StateRecord) :=
  match s.kind with
  | .memory | .recordFile => .ok s.records.values
  | .database | .transientDatabase => do
    (← s.query StateTable.listSql []).mapM id

/-- Forgets a scope.  A record file is left alone where there is nothing to forget. -/
def remove (s : Store) (scope : Scope) : Except IoError Unit × Store :=
  match s.kind with
  | .memory => (.ok (), { s with records := s.records.remove scope })
  | .recordFile =>
    if (s.records.find? scope).isSome then { s with records := s.records.remove scope }.flush
    else (.ok (), s)
  | .database | .transientDatabase => s.alter StateTable.deleteSql [.integer scope]

/-- The record of a scope, as far as it can be had. -/
def state? (s : Store) (scope : Scope) : Option StateRecord := (s.find scope).toOption.join

/-- All records, as far as they can be had. -/
def states (s : Store) : List StateRecord := s.list.toOption.getD []

/-- A fresh instance on the same volume. -/
def reopen (s : Store) : Except IoError Store := load s.kind s.volume s.engine

end Store

end UpdatePipeline
