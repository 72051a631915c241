/-
The JSON form of settings. Each section is a record of named fields, and the section of preferences says its
kind among them. Settings in another format are read through the JSON source with the same parts; how lists and
tables of that format stand for records and for alternatives that hold nothing is a dialect.
-/
import TypedStorage.Json.Read
import TypedStorage.Json.Write
import TypedStorage.Settings.Basic

namespace TypedStorage

open Json

/-! ## Writing -/

def DatabaseSettings.document (d : DatabaseSettings) : Document :=
  .ofPairs [("path", .ofString d.path), ("encryption_key", .ofOption (d.encryptionKey.map .ofString))]

def PreferencesSettings.document : PreferencesSettings → Document
  | .namespaced ns url =>
    .ofPairs [("kind", .ofString "namespace"), ("namespace", .ofString ns), ("redis_url", .ofString url)]
  | .secure serviceId accessGroup accessibility =>
    .ofPairs [("kind", .ofString "secure"), ("service_id", .ofString serviceId),
      ("access_group", .ofOption (accessGroup.map .ofString)), ("accessibility", .ofString accessibility.keyword)]

def FilesSettings.document (f : FilesSettings) : Document :=
  .ofPairs [("base", .ofString f.base.name), ("folder_name", .ofString f.folderName),
    ("root", .ofOption (f.root.map .ofString))]

def SyncMode.name : SyncMode → String
  | .none => "none"

def SyncMode.document (m : SyncMode) : Document := .ofPairs [("mode", .ofString m.name)]

def Settings.document (s : Settings) : Document :=
  .ofPairs [("database", .ofOption (s.database.map (·.document))),
    ("preferences", .ofOption (s.preferences.map (·.document))), ("files", .ofOption (s.files.map (·.document))),
    ("sync", s.sync.document)]

instance : Writable Settings := ⟨fun s => .ok s.document⟩

/-! ## Reading -/

/-- How the lists and tables of a format stand for the parts of settings. -/
structure Dialect where
  /-- A record of so many fields. -/
  record : Nat → Source → Source
  /-- An alternative that holds nothing. -/
  choice : Source → Source

def Dialect.json : Dialect := ⟨fun _ x => x, id⟩

/-- Inside settings of preferences, an alternative may hold an empty table in place of nothing. -/
def Dialect.kept : Dialect where
  record _ x := x
  choice
    | .object [(name, .object [])] => .object [(name, .null)]
    | x => x

namespace Dialect

variable (d : Dialect)

def fields? (names : List String) : Reader Fields := fun budget x => Fields.ofSource? names budget (d.record names.length x)

def choice? {α : Type} (alternatives : List (String × α)) : Reader α := fun budget x =>
  Choice.among alternatives budget (d.choice x)

/-- The field that a reader takes, if there is one. -/
def section? {α : Type} (f : Fields) (name : String) (read : Reader α) : Option (Option α) :=
  match f.found.lookup name with
  | some .null => some none
  | some x => (read f.budget x).map some
  | none => if f.inOrder then none else some none

def accessibilities : List (String × Accessibility) := Accessibility.all.map fun a => (a.keyword, a)

def directories : List (String × BaseDirectory) := BaseDirectory.all.map fun b => (b.name, b)

def database? : Reader DatabaseSettings := fun budget x => do
  let f ← d.fields? ["path", "encryption_key"] budget x
  return ⟨← f.required "path", ← f.optional "encryption_key"⟩

/-- Preferences of a kind, of what is left when the kind is known. -/
def preferencesOf? (kind : String) : Reader PreferencesSettings := fun budget x =>
  match kind with
  | "namespace" => do
    let f ← d.fields? ["namespace", "redis_url"] budget x
    return .namespaced (← f.required "namespace") (← f.required "redis_url")
  | "secure" => do
    let f ← d.fields? ["service_id", "access_group", "accessibility"] budget x
    let accessibility ← match f.found.lookup "accessibility" with
      | some x => d.choice? accessibilities f.budget x
      | none => some default
    return .secure (← f.required "service_id") (← f.optional "access_group") accessibility
  | _ => none

/-- The kind is a member of the object, or the first item of the list. -/
def preferences? : Reader PreferencesSettings := fun budget x => do
  let _ ← Source.json? budget x
  match x with
  | .object members =>
    match members.filter fun p => p.1 = some "kind" with
    | [(_, .string (some kind))] =>
      kept.preferencesOf? kind budget (.object (members.filter fun p => p.1 ≠ some "kind"))
    | _ => none
  | .array (.string (some kind) :: items) => kept.preferencesOf? kind budget (.array items)
  | _ => none

def files? : Reader FilesSettings := fun budget x => do
  let f ← d.fields? ["base", "folder_name", "root"] budget x
  let base ← (f.found.lookup "base").bind (d.choice? directories f.budget)
  return ⟨base, ← f.required "folder_name", ← f.optional "root"⟩

def sync? : Reader SyncMode := fun budget x => do
  let f ← d.fields? ["mode"] budget x
  match f.found.lookup "mode" with
  | some x => d.choice? [("none", SyncMode.none)] f.budget x
  | none => some .none

def settings? : Reader Settings := fun budget x => do
  let f ← d.fields? ["database", "preferences", "files", "sync"] budget x
  let sync ← match f.found.lookup "sync" with
    | some x => d.sync? f.budget x
    | none => some .none
  return ⟨← section? f "database" d.database?, ← section? f "preferences" preferences?,
    ← section? f "files" d.files?, sync⟩

end Dialect

instance : Readable Settings := ⟨Dialect.json.settings?⟩

end TypedStorage
