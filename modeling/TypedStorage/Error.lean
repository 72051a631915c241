/-
What can go wrong with an application's storage as a whole. The errors of the parts are carried along; of a
store's errors, a wrong configuration and a table that exists already are errors of the whole.
-/
import TypedStorage.Store.Error
import TypedStorage.Preferences.Error
import TypedStorage.Files.Error
import TypedStorage.Settings.Error
import TypedStorage.Signals.Error

namespace TypedStorage

inductive StorageError where
  | configuration (text : String)
  | schemaConflict (table : String)
  | encoding (cause : CodecError)
  | buildFailure (name reason : String)
  | database (cause : StoreError)
  | preferences (cause : PreferencesError)
  | files (cause : FileError)
  | sync (cause : SyncError)
  | config (cause : ConfigError)
  | internal (text : String)
  deriving DecidableEq

namespace StorageError

def message : StorageError → String
  | .configuration text => "Configuration error: " ++ text
  | .schemaConflict table => "Schema conflict: table '" ++ table ++ "' already exists"
  | .encoding cause => "Encoding error: " ++ cause.message
  | .buildFailure name reason => "Failed to build '" ++ name ++ "': " ++ reason
  | .database cause => "Database error: " ++ cause.message
  | .preferences cause => "Preferences error: " ++ cause.message
  | .files cause => "File error: " ++ cause.message
  | .sync cause => "Sync error: " ++ cause.message
  | .config cause => "Config error: " ++ cause.message
  | .internal text => "Internal error: " ++ text

/-- The part that the error comes from, or its kind, in one word. -/
def label : StorageError → String
  | .configuration _ => "Configuration"
  | .schemaConflict _ => "SchemaConflict"
  | .encoding _ => "Encoding"
  | .buildFailure _ _ => "BuildFailure"
  | .database _ => "Database"
  | .preferences _ => "Preferences"
  | .files _ => "Files"
  | .sync _ => "Sync"
  | .config _ => "Config"
  | .internal _ => "Internal"

/-- The errors that carry a text or nothing, by the part that they come from, if one, and by name. -/
def catalog (name text : String) : List (String × List (String × StorageError)) := [
  ("preferences", [("Connection", .preferences (.pool text)), ("Configuration", .preferences (.configuration text)),
    ("Task", .preferences (.task text))]),
  ("files", [("InvalidPath", .files (.invalidPath text)), ("MissingRoot", .files (.missingRoot text)),
    ("NotFound", .files (.notFound text))]),
  ("sync", [("NotStarted", .sync .notStarted), ("Remote", .sync (.remote text)), ("Observer", .sync (.observer text))]),
  ("config", [("", .config (.invalid text))]),
  ("", [("Configuration", .configuration text), ("SchemaConflict", .schemaConflict text),
    ("BuildFailure", .buildFailure name text), ("Internal", .internal text)])]

def ofStore : StoreError → StorageError
  | .configuration text => .configuration text
  | .schemaConflict table => .schemaConflict table
  | cause => .database cause

end StorageError

end TypedStorage
