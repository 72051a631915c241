/-
Databases as record stores use them. A database with states of type `σ` looks for tables, creates them, and
runs commands; each access leaves a state behind, also when it fails. A query that compiles to no statement
does not reach the database: it affects and finds no rows.
-/
import TypedStorage.Query.Compile
import TypedStorage.Store.Error

namespace TypedStorage

/-- What a database is told in words. -/
inductive Command where
  | query (q : Query)
  | drop (d : TableDefinition)

namespace Command

def compile : Command → Compiled
  | .query q => q.compile
  | .drop d => ⟨d.dropSql, []⟩

end Command

/-- An access to a database with states of type `σ`. -/
abbrev Access (σ α : Type) := ExceptT StoreError (StateM σ) α

structure Database (σ : Type) where
  /-- How the database is shown. -/
  label : String
  tableExists : String → Access σ Bool
  createTable : TableDefinition → Access σ Unit
  /-- Runs a command and counts the rows it affects. -/
  write : Command → Access σ Nat
  /-- Runs a command and gives the rows it finds. -/
  read : Command → Access σ (List ValueMap)

namespace Database

variable {σ : Type}

def execute (db : Database σ) (q : Query) : Access σ Nat :=
  if q.compile.isNoop then pure 0 else db.write (.query q)

def fetch (db : Database σ) (q : Query) : Access σ (List ValueMap) :=
  if q.compile.isNoop then pure [] else db.read (.query q)

/-- Creates the table where it is missing; to recreate it, drops it first. -/
def migrate (db : Database σ) (d : TableDefinition) (recreate : Bool) : Access σ Unit := do
  if recreate then
    let _ ← db.write (.drop d)
  db.createTable (d.withOption .ifNotExists)

end Database

end TypedStorage
