/-
The settings of an application: which database it has, which preferences and which folder for files, if any,
and how it synchronizes. Settings are valid when no name that is needed is empty.
-/
import TypedStorage.Files.Folder
import TypedStorage.Preferences.Secure
import TypedStorage.Settings.Error
import TypedStorage.Text.Blank

namespace TypedStorage

structure DatabaseSettings where
  path : String
  encryptionKey : Option String
  deriving DecidableEq

inductive PreferencesSettings where
  /-- In a namespace on a server. -/
  | namespaced (ns url : String)
  /-- In the keychain of the system. -/
  | secure (serviceId : String) (accessGroup : Option String) (accessibility : Accessibility)
  deriving DecidableEq

structure FilesSettings where
  base : BaseDirectory
  folderName : String
  root : Option String
  deriving DecidableEq

inductive SyncMode where
  | none
  deriving DecidableEq

structure Settings where
  database : Option DatabaseSettings
  preferences : Option PreferencesSettings
  files : Option FilesSettings
  sync : SyncMode
  deriving DecidableEq

def DatabaseSettings.complaint? (d : DatabaseSettings) : Option String :=
  if Text.trim d.path = "" then some "Database path cannot be empty"
  else if d.encryptionKey = some "" then some "Database encryption_key cannot be empty when set"
  else none

def PreferencesSettings.complaint? : PreferencesSettings → Option String
  | .namespaced ns url =>
    if ns = "" then some "Preferences namespace cannot be empty"
    else if url = "" then some "Redis URL cannot be empty"
    else none
  | .secure serviceId _ _ => if serviceId = "" then some "Secure preferences service_id cannot be empty" else none

def FilesSettings.complaint? (f : FilesSettings) : Option String :=
  if f.folderName = "" then some "Files folder_name cannot be empty" else none

namespace Settings

def empty : Settings := ⟨none, none, none, .none⟩

/-- What is wrong with the first section that is not valid. -/
def complaint? (s : Settings) : Option String :=
  s.database.bind DatabaseSettings.complaint? <|> s.preferences.bind PreferencesSettings.complaint? <|>
    s.files.bind FilesSettings.complaint?

def validate (s : Settings) : Except ConfigError Unit :=
  match s.complaint? with
  | some text => .error (.invalid text)
  | none => .ok ()

end Settings

end TypedStorage
