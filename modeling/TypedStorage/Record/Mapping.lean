/-
Records and their tables. A mapping says in which table the records of a type are kept, under which key, and
with which values; the queries that write and find one record follow from it. A schema can also read a record
from a row and defines the table. Updating leaves the key alone; upserting finds its conflicts by the key.
-/
import TypedStorage.Query.Compile
import TypedStorage.Store.Error

namespace TypedStorage

structure Mapping (α : Type) where
  table : String
  keyColumn : String
  keyValue : α → Scalar
  fieldValues : α → ValueMap

namespace Mapping

variable {α : Type}

/-- The record with this key. -/
def hasKey (m : Mapping α) (key : Scalar) : Filter := .eq m.keyColumn key

def insertQuery (m : Mapping α) (x : α) : Query := ⟨m.table, .insert (m.fieldValues x)⟩

def insertManyQuery (m : Mapping α) (xs : List α) : Query := ⟨m.table, .insertMany (xs.map m.fieldValues)⟩

def updateQuery (m : Mapping α) (x : α) : Query :=
  ⟨m.table, .update ((m.fieldValues x).erase m.keyColumn) [m.hasKey (m.keyValue x)]⟩

def deleteQuery (m : Mapping α) (key : Scalar) : Query := ⟨m.table, .delete [m.hasKey key]⟩

def deleteManyQuery (m : Mapping α) (keys : List Scalar) : Query := ⟨m.table, .deleteMany m.keyColumn keys⟩

def upsertQuery (m : Mapping α) (x : α) : Query := ⟨m.table, .upsert (m.fieldValues x) [m.keyColumn] none⟩

def selectByIdQuery (m : Mapping α) (key : Scalar) : Query :=
  (Selection.build [.filter (m.hasKey key), .limit 1]).of m.table

end Mapping

structure RecordSchema (α : Type) extends Mapping α where
  /-- The record that a row holds. -/
  ofRow : ValueMap → Except StoreError α
  definition : TableDefinition

/-- What a row holds in a column; a column that is not there is null. -/
def KeyMap.cell (row : ValueMap) (column : String) : Scalar := (row.get? column).getD .null

/-- A value that cannot be read, with the column it stands in. -/
def StoreError.ofField (column : String) (e : ConversionError) : StoreError :=
  .serialization ("field '" ++ column ++ "': " ++ e.message)

end TypedStorage
