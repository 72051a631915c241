/-
Typed values from JSON. A reader takes how many arrays and objects may still stand inside one another, and a
source. A record of named fields is an object, whose other members are ignored, or an array of all the
fields in order; a choice is the name of an alternative, or an object whose one member is named after it.
-/
import TypedStorage.Json.Source

namespace TypedStorage.Json

/-- Reads a value of the type; the number bounds the nesting that is left. -/
abbrev Reader (α : Type) := Nat → Source → Option α

class Readable (α : Type) where
  read? : Reader α

namespace Reader

def int? : Reader Int
  | _, .number (some (.int i _)) => some i
  | _, _ => none

instance : Readable Int64 where
  read? budget x := (int? budget x).bind fun i =>
    if -0x8000000000000000 ≤ i ∧ i < 0x8000000000000000 then some (Int64.ofInt i) else none

instance : Readable UInt8 where
  read? budget x := (int? budget x).bind fun i => if 0 ≤ i ∧ i < 256 then some (UInt8.ofNat i.toNat) else none

/-- Any number; an integer is rounded to the nearest double. -/
instance : Readable Double where
  read?
    | _, .number (some (.int i _)) => some (Double.ofInt i)
    | _, .number (some (.double x)) => some (.finite x)
    | _, _ => none

instance : Readable Bool where
  read?
    | _, .bool b => some b
    | _, _ => none

instance : Readable String where
  read?
    | _, .string s => s
    | _, _ => none

instance : Readable Document where
  read? := Source.document?

instance {α : Type} [Readable α] : Readable (Option α) where
  read?
    | _, .null => some none
    | budget, x => (Readable.read? budget x).map some

instance {α : Type} [Readable α] : Readable (List α) where
  read?
    | budget + 1, .array items => items.mapM (Readable.read? budget)
    | _, _ => none

/-- An object with any names; the last member under a name counts. -/
instance {α : Type} [Readable α] : Readable (KeyMap α) where
  read?
    | budget + 1, .object members => do
      let pairs ← members.mapM fun (name, x) => do
        let k ← name
        let v ← Readable.read? budget x
        return (k, v)
      return KeyMap.ofPairs pairs
    | _, _ => none

end Reader

/-! ## Records of named fields -/

/-- The fields of a record that a source gives, still to be read. -/
structure Fields where
  inOrder : Bool
  budget : Nat
  found : List (String × Source)

namespace Fields

/-- Every name is a text, and no field is given twice. -/
def ofMembers? (names : List String) (budget : Nat) (members : List (Option String × Source)) : Option Fields := do
  let keyed ← members.mapM fun (name, x) => name.map (·, x)
  let known := keyed.filter fun p => names.contains p.1
  guard (known.map Prod.fst).Nodup
  return ⟨false, budget, known⟩

/-- The fields of a record with these names. -/
def ofSource? (names : List String) : Reader Fields
  | budget + 1, .object members => ofMembers? names budget members
  | budget + 1, .array items => if items.length ≤ names.length then some ⟨true, budget, names.zip items⟩ else none
  | _, _ => none

def required {α : Type} [Readable α] (f : Fields) (name : String) : Option α :=
  (f.found.lookup name).bind (Readable.read? f.budget)

/-- A field that may be missing, though not from the end of an array. -/
def optional {α : Type} [Readable α] (f : Fields) (name : String) : Option (Option α) :=
  match f.found.lookup name with
  | some x => Readable.read? f.budget x
  | none => if f.inOrder then none else some none

/-- A field that has a value of its own when it is missing. -/
def withDefault {α : Type} [Readable α] (f : Fields) (name : String) (value : α) : Option α :=
  match f.found.lookup name with
  | some x => Readable.read? f.budget x
  | none => some value

end Fields

/-! ## Choices -/

/-- The name of an alternative and what it holds. -/
structure Choice where
  name : String
  budget : Nat
  content : Option Source

namespace Choice

def ofSource? : Reader Choice
  | budget, .string (some s) => some ⟨s, budget, none⟩
  | budget + 1, .object [(some k, x)] => some ⟨k, budget, some x⟩
  | _, _ => none

/-- The alternative holds nothing: it stands alone or with a null. -/
def alone (c : Choice) : Bool :=
  match c.content with
  | none | some .null => true
  | _ => false

/-- The value that the alternative holds. -/
def holds {α : Type} [Readable α] (c : Choice) : Option α := c.content.bind (Readable.read? c.budget)

/-- The alternative among these that hold nothing. -/
def among {α : Type} (alternatives : List (String × α)) : Reader α := fun budget x => do
  let c ← ofSource? budget x
  guard c.alone
  alternatives.lookup c.name

end Choice

/-- The value of a type that a text gives. -/
def readText? {α : Type} [Readable α] (s : String) : Option α :=
  (Source.read? s).bind (Readable.read? Source.maxDepth)

/-- The value of a type that a JSON value gives. -/
def readDocument? {α : Type} [Readable α] (d : Document) : Option α :=
  Readable.read? Source.maxDepth (Source.ofJson d.tree)

end TypedStorage.Json
