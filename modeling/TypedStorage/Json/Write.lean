/-
JSON values of typed values. Members are put in order of their names. The names of an object are texts: a map
whose keys are integers has their decimal text as names, and one whose keys have no text cannot be written.
-/
import TypedStorage.Json.Text
import TypedStorage.Text.Digits

namespace TypedStorage.Json

inductive WriteError where
  | nameNotText
  deriving DecidableEq

def WriteError.message : WriteError → String
  | .nameNotText => "key must be a string"

class Writable (α : Type) where
  write : α → Except WriteError Document

/-- Types of keys, with the name that a key is written as. -/
class WritableName (κ : Type) where
  name? : κ → Option String

instance : WritableName String := ⟨some⟩
instance : WritableName Int64 := ⟨fun i => some (Text.intText i.toInt)⟩
instance : WritableName (List UInt8) := ⟨fun _ => none⟩

namespace Document

def ofBool (b : Bool) : Document := ⟨.bool b, trivial⟩
def ofString (s : String) : Document := ⟨.string s, trivial⟩
def ofInt64 (i : Int64) : Document := ⟨.ofInt64 i, trivial⟩

def ofDouble (x : Double) : Document := ⟨.ofDouble x, by cases x <;> trivial⟩

def ofList (ds : List Document) : Document :=
  ⟨.array (ds.map (·.tree)), orderedItems_iff.2 fun j hj => by
    obtain ⟨d, _, rfl⟩ := List.mem_map.1 hj
    exact d.ordered⟩

def ofPairs (pairs : List (String × Document)) : Document :=
  ⟨.ofMembers (pairs.map fun p => (p.1, p.2.tree)), ordered_ofMembers (orderedMembers_iff.2 fun q hq => by
    obtain ⟨p, _, rfl⟩ := List.mem_map.1 hq
    exact p.2.ordered)⟩

/-- An alternative that holds a value. -/
def choice (name : String) (content : Document) : Document := ofPairs [(name, content)]

def ofOption (d : Option Document) : Document := d.getD null

end Document

instance : Writable Bool := ⟨fun b => .ok (.ofBool b)⟩
instance : Writable String := ⟨fun s => .ok (.ofString s)⟩
instance : Writable Int64 := ⟨fun i => .ok (.ofInt64 i)⟩
instance : Writable Double := ⟨fun x => .ok (.ofDouble x)⟩
instance : Writable Document := ⟨.ok⟩

instance {α : Type} [Writable α] : Writable (List α) := ⟨fun xs => do return .ofList (← xs.mapM Writable.write)⟩

instance {α : Type} [Writable α] : Writable (Option α) where
  write
    | some x => Writable.write x
    | none => .ok .null

/-- Maps as lists of their entries. -/
instance {κ α : Type} [WritableName κ] [Writable α] : Writable (List (κ × α)) where
  write entries := do
    let pairs ← entries.mapM fun (k, x) => do
      match WritableName.name? k with
      | some name => return (name, ← Writable.write x)
      | none => throw .nameNotText
    return .ofPairs pairs

end TypedStorage.Json
