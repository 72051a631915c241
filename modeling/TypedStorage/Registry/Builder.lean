/-
The storage of an application, built from at most one choice for each kind of manager. The choices are resolved
in a fixed order, and the first that fails ends the build; what was built before stays in the registry.
-/
import TypedStorage.Registry.Option

namespace TypedStorage

structure Storage where
  database : Option Instance
  preferences : Option Instance
  files : Option Instance
  sync : Option Instance

/-- The managers in the order of the kinds. -/
def Storage.managers (s : Storage) : List (Option Instance) := [s.database, s.preferences, s.files, s.sync]

structure StorageBuilder where
  database : Option DatabaseOption
  preferences : Option PreferencesOption
  files : Option FilesOption
  sync : Option SyncOption

namespace StorageBuilder

def empty : StorageBuilder := ⟨none, none, none, none⟩

/-- The builder with another choice for the kind of an option. -/
def choose (b : StorageBuilder) : ManagerOption → StorageBuilder
  | .database o => { b with database := some o }
  | .preferences o => { b with preferences := some o }
  | .files o => { b with files := some o }
  | .sync o => { b with sync := some o }

/-- The choices that settings make, on top of the known base directories. -/
def ofSettings (roots : FileRoots) (s : Settings) : StorageBuilder where
  database := s.database.map fun d => .embedded d.path (d.encryptionKey.map Encryption.mk)
  preferences := s.preferences.map .ofSettings
  files := s.files.map fun f => .directory f.base f.folderName (match f.root with
    | some root => roots.withRoot f.base root
    | none => roots)
  sync := some .none

def debugText (b : StorageBuilder) : String :=
  let shown : Option ManagerOption → String
    | some o => "Some(" ++ o.debugText ++ ")"
    | none => "None"
  "StorageBuilder \x7b database: " ++ shown (b.database.map .database) ++ ", preferences: "
    ++ shown (b.preferences.map .preferences) ++ ", files: " ++ shown (b.files.map .files) ++ ", sync: "
    ++ shown (b.sync.map .sync) ++ " \x7d"

/-- The manager of a choice, if one was made; a failure names the choice. -/
def resolve (o : Option ManagerOption) : Attempt.InWorkshop (Option Instance) := fun s =>
  match o with
  | none => (.ok none, s)
  | some o =>
    match Registry.tryGet o.offer s with
    | (.ok x, s) => (.ok (some x), s)
    | (.error (.failed e), s) => (.error (.failed (.buildFailure o.name e.message)), s)
    | (.error .brokeOff, s) => (.error .brokeOff, s)

def build (b : StorageBuilder) : Attempt.InWorkshop Storage := do
  let database ← resolve (b.database.map .database)
  let preferences ← resolve (b.preferences.map .preferences)
  let files ← resolve (b.files.map .files)
  let sync ← resolve (b.sync.map .sync)
  return ⟨database, preferences, files, sync⟩

end StorageBuilder

end TypedStorage
