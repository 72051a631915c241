/-
Scalars and the types of fields. `ToScalar` says which scalar a value of a type is, `FromScalar` which
scalars are read as a value of it. Reading is wider than writing: a timestamp, an identifier and a JSON value
are read from their text too, a boolean from 0 and 1, numbers from each other where the table here says so.
An optional field is null when it is absent.
-/
import TypedStorage.Scalar.Basic
import TypedStorage.Json.Source

namespace TypedStorage

/-- A scalar of this kind is no value of the wanted type. -/
structure ConversionError where
  target : String
  found : String
  deriving DecidableEq

def ConversionError.message (e : ConversionError) : String :=
  "Could not convert " ++ e.found ++ " value to '" ++ e.target ++ "'"

class ToScalar (α : Type) where
  toScalar : α → Scalar

export ToScalar (toScalar)

class FromScalar (α : Type) where
  /-- The name of the type in errors. -/
  target : String
  read? : Scalar → Option α

/-- The value a scalar is read as, or what was found instead. -/
def fromScalar {α : Type} [FromScalar α] (s : Scalar) : Except ConversionError α :=
  match FromScalar.read? s with
  | some x => .ok x
  | none => .error ⟨FromScalar.target α, s.kindName⟩

instance : ToScalar String := ⟨.text⟩
instance : ToScalar Int64 := ⟨.integer⟩
instance : ToScalar Int32 := ⟨fun i => .integer (Int64.ofInt i.toInt)⟩
instance : ToScalar Int16 := ⟨fun i => .integer (Int64.ofInt i.toInt)⟩
instance : ToScalar UInt32 := ⟨fun n => .integer (Int64.ofInt n.toNat)⟩
instance : ToScalar Double := ⟨.real⟩
instance : ToScalar Bool := ⟨.boolean⟩
instance : ToScalar (List UInt8) := ⟨.blob⟩
instance : ToScalar Timestamp := ⟨.timestamp⟩
instance : ToScalar Uuid := ⟨.uuid⟩
instance : ToScalar Json.Document := ⟨.json⟩

instance {α : Type} [ToScalar α] : ToScalar (Option α) where
  toScalar
    | some x => toScalar x
    | none => .null

instance : FromScalar String where
  target := "String"
  read?
    | .text s => some s
    | _ => none

instance : FromScalar Int64 where
  target := "i64"
  read?
    | .integer i => some i
    | .boolean b => some (if b then 1 else 0)
    | _ => none

/-- Reads a 64-bit integer as one of 32 bits where it fits. -/
def narrow? (i : Int64) : Option Int32 :=
  if -0x80000000 ≤ i.toInt ∧ i.toInt < 0x80000000 then some (Int32.ofInt i.toInt) else none

instance : FromScalar Int32 where
  target := "i32"
  read?
    | .integer i => narrow? i
    | _ => none

instance : FromScalar Double where
  target := "f64"
  read?
    | .real x => some x
    | .integer i => some (Double.ofInt i.toInt)
    | _ => none

instance : FromScalar Bool where
  target := "bool"
  read?
    | .boolean b => some b
    | .integer i => if i = 0 then some false else if i = 1 then some true else none
    | _ => none

instance : FromScalar (List UInt8) where
  target := "Vec<u8>"
  read?
    | .blob bytes => some bytes
    | _ => none

instance : FromScalar Timestamp where
  target := "DateTime<Utc>"
  read?
    | .timestamp t => some t
    | .text s => Timestamp.ofText? s
    | _ => none

instance : FromScalar Uuid where
  target := "Uuid"
  read?
    | .uuid u => some u
    | .text s => Uuid.ofText? s
    | _ => none

instance : FromScalar Json.Document where
  target := "serde_json::Value"
  read?
    | .json d => some d
    | .text s => Json.Document.ofText? s
    | _ => none

instance {α : Type} [FromScalar α] : FromScalar (Option α) where
  target := FromScalar.target α
  read?
    | .null => some none
    | s => (FromScalar.read? s).map some

end TypedStorage
