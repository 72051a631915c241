/-
What can go wrong with records and their tables. A database reports its faults in its own words, which are
kept; the store adds what kind of fault it is.
-/
import TypedStorage.Schema.Table
import TypedStorage.Scalar.Convert

namespace TypedStorage

/-- A fault as a database driver reports it. -/
inductive DatabaseFault where
  | rowNotFound
  | configuration (text : String)
  | columnNotFound (name : String)
  | protocol (text : String)
  | poolClosed
  | poolTimedOut
  /-- A statement that the database refused, with its result code. -/
  | refused (code : Nat) (text : String)
  deriving DecidableEq

def DatabaseFault.message : DatabaseFault → String
  | .rowNotFound => "no rows returned by a query that expected to return at least one row"
  | .configuration text => "error with configuration: " ++ text
  | .columnNotFound name => "no column found for name: " ++ name
  | .protocol text => "encountered unexpected or invalid data: " ++ text
  | .poolClosed => "attempted to acquire a connection on a closed pool"
  | .poolTimedOut => "pool timed out while waiting for an open connection"
  | .refused code text => "error returned from database: (code: " ++ toString code ++ ") " ++ text

/-- The faults that a driver reports itself, by name. -/
def DatabaseFault.catalog (text : String) : List (String × DatabaseFault) := [
  ("RowNotFound", .rowNotFound), ("Configuration", .configuration text), ("ColumnNotFound", .columnNotFound text),
  ("Protocol", .protocol text), ("PoolClosed", .poolClosed), ("PoolTimedOut", .poolTimedOut)]

inductive StoreError where
  | database (text : String)
  | schemaConflict (table : String)
  | configuration (text : String)
  | serialization (text : String)
  | notFound (text : String)
  | validation (text : String)
  | internal (text : String)
  deriving DecidableEq

namespace StoreError

def message : StoreError → String
  | .database text => "Database error: " ++ text
  | .schemaConflict table => "Table '" ++ table ++ "' already exists"
  | .configuration text => "Configuration error: " ++ text
  | .serialization text => "Serialization error: " ++ text
  | .notFound text => "Not found: " ++ text
  | .validation text => "Validation error: " ++ text
  | .internal text => "Internal server error: " ++ text

/-- The kind of the error in one word. -/
def label : StoreError → String
  | .database _ => "DatabaseError"
  | .schemaConflict _ => "SchemaConflict"
  | .configuration _ => "Configuration"
  | .serialization _ => "SerializationError"
  | .notFound _ => "NotFound"
  | .validation _ => "ValidationError"
  | .internal _ => "InternalServerError"

/-- The errors with a text, one of each kind. -/
def all (text : String) : List StoreError :=
  [.database text, .schemaConflict text, .configuration text, .serialization text, .notFound text, .validation text,
    .internal text]

def ofLabel? (label text : String) : Option StoreError := (all text).find? fun e => e.label = label

def ofFault : DatabaseFault → StoreError
  | .rowNotFound => .notFound "row"
  | .configuration text => .configuration text
  | fault => .database fault.message

def ofValidation (e : ValidationError) : StoreError := .validation e.message

def ofConversion (e : ConversionError) : StoreError := .serialization e.message

end StoreError

end TypedStorage
