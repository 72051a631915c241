/-
Column types, the keywords that name them, and the column type that a field of a given type gets. A keyword
is matched without the blanks around it and in any case; one that is not known is a type of its own and
keeps its case. The type of a field is named as in the source of a record declaration.
-/
import TypedStorage.Text.Blank

namespace TypedStorage

inductive ColumnType where
  | text | integer | real | double | numeric | boolean | date | blob | any
  | custom (name : String)
  deriving DecidableEq

namespace ColumnType

def keyword : ColumnType → String
  | .text => "TEXT"
  | .integer => "INTEGER"
  | .real => "REAL"
  | .double => "DOUBLE"
  | .numeric => "NUMERIC"
  | .boolean => "BOOLEAN"
  | .date => "DATE"
  | .blob => "BLOB"
  | .any => "ANY"
  | .custom name => name

/-- The keywords with their types, in capitals. -/
def keywords : List (String × ColumnType) := [
  ("TEXT", .text), ("INTEGER", .integer), ("INT", .integer), ("REAL", .real), ("DOUBLE", .double),
  ("NUMERIC", .numeric), ("BOOLEAN", .boolean), ("BOOL", .boolean), ("DATE", .date), ("BLOB", .blob),
  ("ANY", .any)]

def ofKeyword (s : String) : ColumnType :=
  let word := Text.trim s
  (keywords.lookup (String.ofList (word.toList.map Char.toUpper))).getD (.custom word)

/-- A strict table has columns of these types only. -/
def isStrict : ColumnType → Bool
  | .integer | .real | .text | .blob | .any => true
  | _ => false

end ColumnType

/-! ## Types of fields -/

namespace FieldTypeName

def withoutSpaces (cs : List Char) : List Char := cs.filter (· != ' ')

def optionHead : List Char := "Option<".toList

/-- What stands between `Option<` and the last `>`, or the name itself. -/
def stripOption (cs : List Char) : List Char :=
  if optionHead.isPrefixOf cs ∧ (cs.drop 7).getLast? = some '>' then (cs.drop 7).dropLast else cs

/-- The name of the type inside an optional one, without spaces. -/
def inner (name : String) : String := String.ofList (stripOption (withoutSpaces name.toList))

def columnTypes : List (String × ColumnType) := [
  ("String", .text), ("&str", .text),
  ("i8", .integer), ("i16", .integer), ("i32", .integer), ("i64", .integer),
  ("u8", .integer), ("u16", .integer), ("u32", .integer), ("u64", .numeric),
  ("f32", .real), ("f64", .double), ("bool", .boolean),
  ("Uuid", .text), ("uuid::Uuid", .text),
  ("DateTime<Utc>", .date), ("chrono::DateTime<chrono::Utc>", .date),
  ("Vec<u8>", .blob), ("serde_json::Value", .text), ("Value", .text)]

/-- The column type of a field; a type that is not known goes into a column of any type. -/
def columnType (name : String) : ColumnType := (columnTypes.lookup (inner name)).getD .any

def isOptional (name : String) : Bool := "Option".toList.isPrefixOf (Text.trimChars name.toList)

/-- The types whose fields are read and written as scalars. -/
def convertible : List String := [
  "String", "i32", "i64", "f64", "bool", "Vec<u8>", "Uuid", "uuid::Uuid", "DateTime<Utc>",
  "chrono::DateTime<chrono::Utc>", "serde_json::Value"]

def isConvertible (name : String) : Bool := convertible.contains (inner name)

end FieldTypeName

end TypedStorage
