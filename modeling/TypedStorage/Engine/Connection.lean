/-
The engine that the library runs on here: a database in memory or in a file, and the connection to it. Tables are
permanent or temporary; a name, in any case of its letters, means a temporary table first. Closing loses all temporary
tables, and everything if the database is in memory; a closed connection refuses every call. Tables are counted by
their names exactly.

It knows tables only, no indexes or views, and of tables that refer to each other nothing.
-/
import TypedStorage.Engine.Schema
import TypedStorage.Engine.Statement
import TypedStorage.Store.Sqlite
import TypedStorage.Text.Blank

namespace TypedStorage.Engine

structure Catalog where
  temporary : List Table
  permanent : List Table

namespace Catalog

def empty : Catalog := ⟨[], []⟩

def all (c : Catalog) : List Table := c.temporary ++ c.permanent

def lookup? (tables : List Table) (name : String) : Option Table := tables.find? fun t => Table.sameName t.name name

def replaceIn (tables : List Table) (t : Table) : List Table :=
  tables.map fun u => if Table.sameName u.name t.name then t else u

/-- The catalog with a new state of the table that the name means. -/
def replace (c : Catalog) (t : Table) : Catalog :=
  if (lookup? c.temporary t.name).isSome then { c with temporary := replaceIn c.temporary t }
  else { c with permanent := replaceIn c.permanent t }

/-- How many tables have exactly this name. -/
def count (c : Catalog) (name : String) : Nat := (c.all.map (·.name)).count name

def isReserved (name : String) : Bool := "SQLITE_".toList.isPrefixOf (Identifier.upper name).toList

def create (c : Catalog) (d : TableDefinition) : Run Catalog := do
  let tables := if d.options.temporary then c.temporary else c.permanent
  if isReserved d.name then refuse 1 ("object name reserved for internal use: " ++ d.name)
  if (lookup? tables d.name).isSome then
    if !d.options.ifNotExists then refuse 1 ("table " ++ d.name ++ " already exists")
    Table.checkReadable d
    return c
  else
    let t ← Table.ofDefinition d
    return if d.options.temporary then { c with temporary := c.temporary ++ [t] }
      else { c with permanent := c.permanent ++ [t] }

/-- The catalog without the table that the name means; no table is no fault. -/
def drop (c : Catalog) (name : String) : Catalog :=
  let without (tables : List Table) : List Table := tables.filter fun t => !Table.sameName t.name name
  if (lookup? c.temporary name).isSome then { c with temporary := without c.temporary }
  else { c with permanent := without c.permanent }

def run (c : Catalog) (q : Query) : Run (Catalog × Effect) := do
  match lookup? c.all q.table with
  | none => refuse 1 ("no such table: " ++ q.table)
  | some t =>
    let (t, effect) ← t.run q.table q.action
    return (c.replace t, effect)

end Catalog

structure Connection where
  path : String
  isOpen : Bool
  catalog : Catalog
  /-- What the last statement that writes has affected. -/
  changes : Nat
  /-- What is set, under these names, before the first statement. -/
  settings : List (String × String) := []

namespace Connection

def memoryPath : String := ":memory:"

/-- What every connection sets before its first statement: the key of an encrypted database, as a text in quotes. -/
def pragmas (key : Option String) : List (String × String) :=
  (key.map fun k => ("key", Scalar.quoteLiteral k)).toList

/-- Opens a database that holds nothing yet; nothing is touched before the first access. -/
def open? (path : String) (key : Option String) (hasRuntime : Bool) : Except StoreError Connection :=
  if (Text.trimChars path.toList).isEmpty then .error (.configuration "database path must not be empty")
  else if key = some "" then .error (.configuration "encryption requested with an empty key")
  else if !hasRuntime then .error (.configuration "opening a SQLite database requires a running Tokio runtime")
  else .ok ⟨path, true, .empty, 0, pragmas key⟩

def close (c : Connection) : Connection := { c with isOpen := false }

/-- Opens a closed database again. -/
def reopen (c : Connection) : Connection :=
  { c with
    isOpen := true
    catalog := ⟨[], if c.path = memoryPath then [] else c.catalog.permanent⟩
    changes := 0 }

/-- A call to an open connection. -/
def call {α : Type} (f : Connection → Run α × Connection) : EngineCall Connection α := fun c =>
  if c.isOpen then f c else (.error .poolClosed, c)

/-- Runs a command; one that writes sets the number of changes, also to zero when it fails. -/
def perform (command : Command) (c : Connection) : Run Effect × Connection :=
  match command with
  | .drop d => (.ok (.affected c.changes), { c with catalog := c.catalog.drop d.name })
  | .query q =>
    match c.catalog.run q with
    | .ok (catalog, .found rows) => (.ok (.found rows), { c with catalog := catalog })
    | .ok (catalog, .affected n) => (.ok (.affected n), { c with catalog := catalog, changes := n })
    | .error fault => (.error fault, if q.action.isRead then c else { c with changes := 0 })

/-- The number of rows affected, which a command that only reads leaves as it was. -/
def write (command : Command) (c : Connection) : Run Nat × Connection :=
  match perform command c with
  | (.ok (.affected n), c) => (.ok n, c)
  | (.ok (.found _), c) => (.ok c.changes, c)
  | (.error fault, c) => (.error fault, c)

def read (command : Command) (c : Connection) : Run (List ValueMap) × Connection :=
  match perform command c with
  | (.ok (.found rows), c) => (.ok rows, c)
  | (.ok (.affected _), c) => (.ok [], c)
  | (.error fault, c) => (.error fault, c)

/-- Creates a table; a fault leaves the catalog as it is. -/
def create (d : TableDefinition) (c : Connection) : Run Unit × Connection :=
  match c.catalog.create d with
  | .ok catalog => (.ok (), { c with catalog := catalog })
  | .error fault => (.error fault, c)

def engine : SqliteEngine Connection where
  countTables name := call fun c => (.ok (c.catalog.count name), c)
  create d := call (create d)
  write command := call (write command)
  read command := call (read command)

def tableExists (name : String) : Access Connection Bool := engine.tableExists name

/-- These values as they come back. -/
def echo (args : List Scalar) : Access Connection (List Scalar) :=
  SqliteEngine.access (call fun c => (.ok (args.map fun s => (Stored.ofScalar s).toScalar), c))

def database : Database Connection := engine.database

end Connection

end TypedStorage.Engine
