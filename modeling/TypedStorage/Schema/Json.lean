/-
The JSON form of column types and table definitions. Options are listed in their fixed order; a list with
one of them twice reads as the same set.
-/
import TypedStorage.Schema.Table
import TypedStorage.Scalar.Json

namespace TypedStorage

open Json

namespace ColumnType

/-- The names of the built-in types. -/
def names : List (String × ColumnType) := [
  ("Text", .text), ("Integer", .integer), ("Real", .real), ("Double", .double), ("Numeric", .numeric),
  ("Boolean", .boolean), ("Date", .date), ("Blob", .blob), ("Any", .any)]

def document : ColumnType → Document
  | .text => .ofString "Text"
  | .integer => .ofString "Integer"
  | .real => .ofString "Real"
  | .double => .ofString "Double"
  | .numeric => .ofString "Numeric"
  | .boolean => .ofString "Boolean"
  | .date => .ofString "Date"
  | .blob => .ofString "Blob"
  | .any => .ofString "Any"
  | .custom name => .choice "Custom" (.ofString name)

instance : Writable ColumnType := ⟨fun t => .ok t.document⟩

instance : Readable ColumnType where
  read? budget x := do
    let c ← Choice.ofSource? budget x
    if c.name = "Custom" then c.holds.map .custom else if c.alone then names.lookup c.name else none

end ColumnType

namespace ColumnDefinition

def document (c : ColumnDefinition) : Document :=
  .ofPairs [("name", .ofString c.name), ("column_type", c.type.document), ("is_primary_key", .ofBool c.isPrimaryKey),
    ("is_not_null", .ofBool c.isNotNull), ("is_unique", .ofBool c.isUnique),
    ("default_value", .ofOption (c.default.map Scalar.document))]

instance : Writable ColumnDefinition := ⟨fun c => .ok c.document⟩

def fieldNames : List String :=
  ["name", "column_type", "is_primary_key", "is_not_null", "is_unique", "default_value"]

instance : Readable ColumnDefinition where
  read? budget x := do
    let f ← Fields.ofSource? fieldNames budget x
    return ⟨← f.required "name", ← f.required "column_type", ← f.required "is_primary_key",
      ← f.required "is_not_null", ← f.required "is_unique", ← f.optional "default_value"⟩

end ColumnDefinition

instance : Readable TableOption := ⟨Choice.among (TableOption.all.map fun o => (o.name, o))⟩

namespace TableDefinition

def document (d : TableDefinition) : Document :=
  .ofPairs [("name", .ofString d.name), ("columns", .ofList (d.columns.map ColumnDefinition.document)),
    ("options", .ofList (d.options.toList.map fun o => .ofString o.name))]

instance : Writable TableDefinition := ⟨fun d => .ok d.document⟩

instance : Readable TableDefinition where
  read? budget x := do
    let f ← Fields.ofSource? ["name", "columns", "options"] budget x
    let options : List TableOption ← f.required "options"
    return ⟨← f.required "name", ← f.required "columns", TableOptions.ofList options⟩

end TableDefinition

end TypedStorage
