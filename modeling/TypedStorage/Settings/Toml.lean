/-
Settings in TOML. A list stands for a record of its first items, and an empty list or table for nothing.
-/
import TypedStorage.Settings.Json
import TypedStorage.Toml.Read

namespace TypedStorage

namespace Toml

/-- A name that no setting has. -/
def timeMember : String := "$time"

mutual

/-- The JSON source with the same parts. A time is a table of its own kind, and no setting is a number. -/
def source : Toml → Json.Source
  | .string s => .string (some s)
  | .boolean b => .bool b
  | .number fits => .number (if fits then some (.int 0 (by decide)) else none)
  | .time text => .object [(some timeMember, .string (some text))]
  | .array items | .tables items => .array (sourceItems items)
  | .table _ members => .object (sourceMembers members)

def sourceItems : List Toml → List Json.Source
  | [] => []
  | x :: items => source x :: sourceItems items

def sourceMembers : List (String × Toml) → List (Option String × Json.Source)
  | [] => []
  | (name, x) :: members => (some name, source x) :: sourceMembers members

end

end Toml

def Dialect.toml : Dialect where
  record
    | count, .array items => .array (items.take count)
    | _, x => x
  choice
    | .object [(name, .object [])] | .object [(name, .array [])] => .object [(name, .null)]
    | x => x

namespace Settings

/-- Settings from a text, which need not be valid. Nothing in a text stands deeper than the text is long. -/
def readToml? (text : String) : Option Settings := do
  let doc ← Toml.ofText? text
  Dialect.toml.settings? (text.length + 1) doc.source

/-- Valid settings from a text. -/
def ofToml (text : String) : Except ConfigError Settings := do
  match readToml? text with
  | none => throw .toml
  | some s =>
    s.validate
    return s

end Settings

end TypedStorage
