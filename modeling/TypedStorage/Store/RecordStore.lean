/-
Record stores: the records of one type in one table of a database. Every operation is one query, and reads
records from the rows it finds; a row that holds no record is an error. What an operation changes is announced
to the listeners of the store's signal manager, if it has one: a write that succeeds tells of each record, an
update or a deletion only if it found a row.
-/
import TypedStorage.Error
import TypedStorage.Record.Mapping
import TypedStorage.Signals.Manager
import TypedStorage.Store.Database
import TypedStorage.Text.Quoted

namespace TypedStorage

/-- Records of type `α` in a database with states of type `σ`, and listeners with names of type `κ`. -/
structure RecordStore (σ κ α : Type) where
  database : Database σ
  schema : RecordSchema α
  signals : Option (SignalManager κ)

/-- The value of an operation and what the listeners hear of it. -/
structure Outcome (κ β : Type) where
  value : β
  heard : List (Delivery κ)

namespace RecordStore

variable {σ κ α : Type}

/-! ## Announcements -/

/-- The change that writing a record is. -/
def recordChange (s : RecordStore σ κ α) (type : ChangeType) (x : α) : Change :=
  ((Change.of type s.schema.table).withRecordId (s.schema.keyValue x).idText).withPayload (s.schema.fieldValues x)

/-- The change that deleting the record with this key is. -/
def deletion (s : RecordStore σ κ α) (key : Scalar) : Change :=
  (Change.of .delete s.schema.table).withRecordId key.idText

/-- What is heard of these changes. -/
def announce (s : RecordStore σ κ α) (changes : List Change) : List (Delivery κ) :=
  match s.signals with
  | some m => m.emitAll changes
  | none => []

/-! ## Operations -/

/-- The records in the rows that a query finds. -/
def fetchRecords (s : RecordStore σ κ α) (q : Query) : Access σ (List α) := do
  MonadExcept.ofExcept ((← s.database.fetch q).mapM s.schema.ofRow)

def create (s : RecordStore σ κ α) (x : α) : Access σ (Outcome κ α) := do
  let _ ← s.database.execute (s.schema.insertQuery x)
  return ⟨x, s.announce [s.recordChange .insert x]⟩

def createMany (s : RecordStore σ κ α) (xs : List α) : Access σ (Outcome κ Nat) := do
  let affected ← s.database.execute (s.schema.insertManyQuery xs)
  return ⟨affected, s.announce (xs.map (s.recordChange .insert))⟩

def getById (s : RecordStore σ κ α) (key : Scalar) : Access σ (Option α) :=
  return (← s.fetchRecords (s.schema.selectByIdQuery key)).head?

def find (s : RecordStore σ κ α) (q : Selection) : Access σ (List α) := s.fetchRecords (q.of s.schema.table)

def listAll (s : RecordStore σ κ α) : Access σ (List α) := s.find .all

/-- The last of at most one record. -/
def findOne (s : RecordStore σ κ α) (q : Selection) : Access σ (Option α) :=
  return (← s.find (q.step (.limit 1))).getLast?

def update (s : RecordStore σ κ α) (x : α) : Access σ (Outcome κ Bool) := do
  let affected ← s.database.execute (s.schema.updateQuery x)
  return ⟨0 < affected, s.announce (if 0 < affected then [s.recordChange .update x] else [])⟩

def upsert (s : RecordStore σ κ α) (x : α) : Access σ (Outcome κ α) := do
  let _ ← s.database.execute (s.schema.upsertQuery x)
  return ⟨x, s.announce [s.recordChange .upsert x]⟩

def delete (s : RecordStore σ κ α) (key : Scalar) : Access σ (Outcome κ Bool) := do
  let affected ← s.database.execute (s.schema.deleteQuery key)
  return ⟨0 < affected, s.announce (if 0 < affected then [s.deletion key] else [])⟩

def deleteMany (s : RecordStore σ κ α) (keys : List Scalar) : Access σ (Outcome κ Nat) := do
  let affected ← s.database.execute (s.schema.deleteManyQuery keys)
  return ⟨affected, s.announce (if 0 < affected then keys.map s.deletion else [])⟩

/-- Creates the table where it is missing. -/
def ensureTable (s : RecordStore σ κ α) : Access σ Unit :=
  s.database.createTable (s.schema.definition.withOption .ifNotExists)

def debugText (s : RecordStore σ κ α) : String :=
  "RecordStore \x7b table: " ++ Text.quoted s.schema.table ++ ", database: " ++ s.database.label
    ++ ", has_signals: " ++ (if s.signals.isSome then "true" else "false") ++ " \x7d"

end RecordStore

/-! ## Operations as data -/

inductive Operation (α : Type) where
  | create (x : α)
  | createMany (xs : List α)
  | getById (key : Scalar)
  | listAll
  | find (q : Selection)
  | findOne (q : Selection)
  | update (x : α)
  | upsert (x : α)
  | delete (key : Scalar)
  | deleteMany (keys : List Scalar)

/-- What an operation answers. -/
inductive Reply (α : Type) where
  | record (x : α)
  | count (n : Nat)
  | found (x : Option α)
  | records (xs : List α)
  | flag (b : Bool)

namespace RecordStore

variable {σ κ α : Type}

def perform (s : RecordStore σ κ α) : Operation α → Access σ (Outcome κ (Reply α))
  | .create x => do
    let r ← s.create x
    return ⟨.record r.value, r.heard⟩
  | .createMany xs => do
    let r ← s.createMany xs
    return ⟨.count r.value, r.heard⟩
  | .getById key => return ⟨.found (← s.getById key), []⟩
  | .listAll => return ⟨.records (← s.listAll), []⟩
  | .find q => return ⟨.records (← s.find q), []⟩
  | .findOne q => return ⟨.found (← s.findOne q), []⟩
  | .update x => do
    let r ← s.update x
    return ⟨.flag r.value, r.heard⟩
  | .upsert x => do
    let r ← s.upsert x
    return ⟨.record r.value, r.heard⟩
  | .delete key => do
    let r ← s.delete key
    return ⟨.flag r.value, r.heard⟩
  | .deleteMany keys => do
    let r ← s.deleteMany keys
    return ⟨.count r.value, r.heard⟩

end RecordStore

/-! ## Opening -/

namespace Database

variable {σ : Type}

/-- Access whose errors are errors of the application's storage. -/
def lifted {α : Type} (a : Access σ α) : ExceptT StorageError (StateM σ) α :=
  ExceptT.mk do
    match ← a.run with
    | .ok x => return .ok x
    | .error e => return .error (.ofStore e)

/-- The database, which must be there. -/
def required (db : Option (Database σ)) : Except StorageError (Database σ) :=
  match db with
  | some db => .ok db
  | none => .error (.configuration "no database manager was configured")

/-- Creates or recreates the table of a definition. -/
def autoMigrate (db : Option (Database σ)) (d : TableDefinition) (recreate : Bool) :
    ExceptT StorageError (StateM σ) Unit := do
  lifted ((← MonadExcept.ofExcept (required db)).migrate d recreate)

end Database

/-- A record store on the database, with its table in place. -/
def RecordStore.onDatabase {σ κ α : Type} (db : Option (Database σ)) (schema : RecordSchema α)
    (signals : Option (SignalManager κ)) : ExceptT StorageError (StateM σ) (RecordStore σ κ α) := do
  let db ← MonadExcept.ofExcept (Database.required db)
  Database.lifted (db.migrate schema.definition false)
  return ⟨db, schema, signals⟩

end TypedStorage
