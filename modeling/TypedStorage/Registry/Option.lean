/-
What an application can choose for each kind of manager, and how the managers are built. The name of a choice
says what it leads to and tells no secret, so that two choices of the same name share one manager.
-/
import TypedStorage.Registry.Manager
import TypedStorage.Settings.Basic

namespace TypedStorage

/-- The key of an encrypted database. -/
structure Encryption where
  key : String
  deriving DecidableEq

/-- The key is not shown. -/
def Encryption.debugText (_ : Encryption) : String := "Encryption \x7b key: \"<redacted>\" \x7d"

/-- What a choice leads to: a manager to be built, or one that the application has. -/
inductive Product where
  | toBuild (m : Manager)
  | own (x : Instance)

def ownName (kind : ManagerKind) (name : String) : String := kind.name ++ ":external:" ++ name

inductive DatabaseOption where
  | embedded (path : String) (encryption : Option Encryption)
  | own (x : Instance) (name : String)

namespace DatabaseOption

def name : DatabaseOption → String
  | embedded path _ => "database:sqlite:" ++ path
  | own _ name => ownName .database name

def product (isRunning : Bool) : DatabaseOption → Except StorageError Product
  | embedded path encryption =>
    match Engine.Connection.open? path (encryption.map (·.key)) isRunning with
    | .ok c => .ok (.toBuild (.connection c))
    | .error e => .error (.ofStore e)
  | own x _ => .ok (.own x)

end DatabaseOption

inductive PreferencesOption where
  | namespaced (ns url : String)
  | secure (serviceId : String) (accessGroup : Option String) (accessibility : Accessibility)
  | own (x : Instance) (name : String)

namespace PreferencesOption

def ofSettings : PreferencesSettings → PreferencesOption
  | .namespaced ns url => .namespaced ns url
  | .secure serviceId accessGroup accessibility => .secure serviceId accessGroup accessibility

def name : PreferencesOption → String
  | namespaced ns _ => "preferences:namespace:" ++ ns
  | secure serviceId (some group) _ => "preferences:secure:" ++ serviceId ++ ":" ++ group
  | secure serviceId none _ => "preferences:secure:" ++ serviceId
  | own _ name => ownName .preferences name

/-- An empty name is an error of the whole, and not of the preferences. -/
def ofPreferences {α : Type} (m : α → Manager) : Except PreferencesError α → Except StorageError Product
  | .ok p => .ok (.toBuild (m p))
  | .error (.configuration text) => .error (.configuration text)
  | .error e => .error (.preferences e)

def product (refusal? : String → Option ServerFault) : PreferencesOption → Except StorageError Product
  | namespaced ns url => ofPreferences .server (ServerPreferences.open? refusal? url ns)
  | secure serviceId accessGroup accessibility =>
    ofPreferences .secure (SecurePreferences.of? serviceId accessGroup accessibility)
  | own x _ => .ok (.own x)

end PreferencesOption

inductive FilesOption where
  | directory (base : BaseDirectory) (folderName : String) (roots : FileRoots)
  | own (x : Instance) (name : String)

namespace FilesOption

def name : FilesOption → String
  | directory base folderName _ => "files:" ++ base.name ++ ":" ++ folderName
  | own _ name => ownName .files name

def product : FilesOption → Except StorageError Product
  | directory base folderName roots =>
    match Folder.of? base folderName roots with
    | .ok f => .ok (.toBuild (.folder f))
    | .error e => .error (.files e)
  | own x _ => .ok (.own x)

end FilesOption

inductive SyncOption where
  | none
  | own (x : Instance) (name : String)

namespace SyncOption

def name : SyncOption → String
  | none => "sync:none"
  | own _ name => ownName .sync name

def product : SyncOption → Product
  | none => .toBuild (.sync .noop)
  | own x _ => .own x

end SyncOption

/-- A choice for one of the kinds. -/
inductive ManagerOption where
  | database (o : DatabaseOption)
  | preferences (o : PreferencesOption)
  | files (o : FilesOption)
  | sync (o : SyncOption)

namespace ManagerOption

/-- The choice of a manager that the application has. -/
def own (kind : ManagerKind) (x : Instance) (name : String) : ManagerOption :=
  match kind with
  | .database => database (.own x name)
  | .preferences => preferences (.own x name)
  | .files => files (.own x name)
  | .sync => sync (.own x name)

def kind : ManagerOption → ManagerKind
  | database _ => .database
  | preferences _ => .preferences
  | files _ => .files
  | sync _ => .sync

def name : ManagerOption → String
  | database o => o.name
  | preferences o => o.name
  | files o => o.name
  | sync o => o.name

def product (here : Surroundings) : ManagerOption → Except StorageError Product
  | database o => o.product here.isRunning
  | preferences o => o.product here.refusal?
  | files o => o.product
  | sync o => .ok o.product

def debugText (o : ManagerOption) : String :=
  let label := match o with
    | database _ => "DatabaseOption"
    | preferences _ => "PreferencesOption"
    | files _ => "FileOption"
    | sync _ => "SyncOption"
  label ++ "(" ++ Text.quoted o.name ++ ")"

open Attempt in
def build (o : ManagerOption) : InWorkshop Instance := do
  match o.product (← workshop).toSurroundings with
  | .error e => throw (.failed e)
  | .ok (.toBuild m) => finish m
  | .ok (.own x) => return x

def offer (o : ManagerOption) : Offer Workshop Instance :=
  ⟨o.kind, o.name, Instance.ofType (.usual o.kind), o.build⟩

end ManagerOption

end TypedStorage
