/-
SQLite databases. The engine is reached by calls, which it answers or refuses in its own words; what it makes of them
is its own matter. The adapter in front of it passes commands on. Only to create a table it does something itself: it
checks the definition and, unless the table may be there already, looks for one of its name.
-/
import TypedStorage.Store.Database

namespace TypedStorage

/-- A call to an engine with states of type `σ`. -/
abbrev EngineCall (σ α : Type) := ExceptT DatabaseFault (StateM σ) α

structure SqliteEngine (σ : Type) where
  /-- Counts the tables, permanent and temporary, that have exactly this name. -/
  countTables : String → EngineCall σ Nat
  /-- Runs the statement that creates the table of a definition. -/
  create : TableDefinition → EngineCall σ Unit
  /-- Runs a command and counts the rows it affects. -/
  write : Command → EngineCall σ Nat
  /-- Runs a command and gives the rows it finds. -/
  read : Command → EngineCall σ (List ValueMap)

namespace SqliteEngine

variable {σ α : Type}

/-- A call whose faults are errors of a store. -/
def access (call : EngineCall σ α) : Access σ α := ExceptT.adapt .ofFault call

def tableExists (e : SqliteEngine σ) (name : String) : Access σ Bool := return 0 < (← access (e.countTables name))

def createTable (e : SqliteEngine σ) (d : TableDefinition) : Access σ Unit := do
  match d.validate with
  | .error fault => throw (.ofValidation fault)
  | .ok _ =>
    if !d.options.ifNotExists then
      if ← e.tableExists d.name then throw (.schemaConflict d.name)
    access (e.create d)

def database (e : SqliteEngine σ) : Database σ where
  label := "SqliteDatabase"
  tableExists := e.tableExists
  createTable := e.createTable
  write command := access (e.write command)
  read command := access (e.read command)

end SqliteEngine

end TypedStorage
