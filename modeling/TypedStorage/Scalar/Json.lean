/-
The JSON form of scalars: the name of the kind alone for null, else an object with the kind and the value.
Bytes are a list of numbers, instants their short text. A double that JSON cannot write becomes a JSON null,
which no reader takes back.
-/
import TypedStorage.Scalar.Basic
import TypedStorage.Json.Read
import TypedStorage.Json.Write

namespace TypedStorage

open Json

instance : Readable Timestamp where
  read? budget x := (Readable.read? budget x).bind Timestamp.ofLooseText?

instance : Readable Uuid where
  read? budget x := (Readable.read? budget x).bind Uuid.ofText?

namespace Scalar

def document : Scalar → Document
  | .null => .ofString "Null"
  | .text s => .choice "Text" (.ofString s)
  | .integer i => .choice "Integer" (.ofInt64 i)
  | .real x => .choice "Real" (.ofDouble x)
  | .boolean b => .choice "Boolean" (.ofBool b)
  | .blob bytes => .choice "Blob" (.ofList (bytes.map fun b => .ofInt64 (Int64.ofInt b.toNat)))
  | .timestamp t => .choice "Timestamp" (.ofString t.shortText)
  | .uuid u => .choice "Uuid" (.ofString u.text)
  | .json d => .choice "Json" d

def ofChoice? (c : Choice) : Option Scalar :=
  match c.name with
  | "Null" => if c.alone then some .null else none
  | "Text" => c.holds.map .text
  | "Integer" => c.holds.map .integer
  | "Real" => c.holds.map .real
  | "Boolean" => c.holds.map .boolean
  | "Blob" => c.holds.map .blob
  | "Timestamp" => c.holds.map .timestamp
  | "Uuid" => c.holds.map .uuid
  | "Json" => c.holds.map .json
  | _ => none

instance : Writable Scalar := ⟨fun s => .ok s.document⟩

instance : Readable Scalar := ⟨fun budget x => (Choice.ofSource? budget x).bind ofChoice?⟩

end Scalar

/-- A row or a record as an object. -/
def valuesDocument (values : ValueMap) : Document := .ofPairs (values.entries.map fun p => (p.1, p.2.document))

end TypedStorage
