/-
The types of the fields that a table keeps. Each is named by the words of its declaration, has values of its
own, and every value of it is a scalar. What a type reads from a scalar is what its values read.
-/
import TypedStorage.Schema.ColumnType
import TypedStorage.Scalar.Convert

namespace TypedStorage

inductive BaseType where
  | text | int32 | int64 | double | boolean | bytes | uuid | timestamp | json
  deriving DecidableEq

namespace BaseType

@[reducible] def Value : BaseType → Type
  | .text => String
  | .int32 => Int32
  | .int64 => Int64
  | .double => Double
  | .boolean => Bool
  | .bytes => List UInt8
  | .uuid => Uuid
  | .timestamp => Timestamp
  | .json => Json.Document

instance (t : BaseType) : ToScalar t.Value :=
  match t with
  | .text => inferInstanceAs (ToScalar String)
  | .int32 => inferInstanceAs (ToScalar Int32)
  | .int64 => inferInstanceAs (ToScalar Int64)
  | .double => inferInstanceAs (ToScalar Double)
  | .boolean => inferInstanceAs (ToScalar Bool)
  | .bytes => inferInstanceAs (ToScalar (List UInt8))
  | .uuid => inferInstanceAs (ToScalar Uuid)
  | .timestamp => inferInstanceAs (ToScalar Timestamp)
  | .json => inferInstanceAs (ToScalar Json.Document)

instance (t : BaseType) : FromScalar t.Value :=
  match t with
  | .text => inferInstanceAs (FromScalar String)
  | .int32 => inferInstanceAs (FromScalar Int32)
  | .int64 => inferInstanceAs (FromScalar Int64)
  | .double => inferInstanceAs (FromScalar Double)
  | .boolean => inferInstanceAs (FromScalar Bool)
  | .bytes => inferInstanceAs (FromScalar (List UInt8))
  | .uuid => inferInstanceAs (FromScalar Uuid)
  | .timestamp => inferInstanceAs (FromScalar Timestamp)
  | .json => inferInstanceAs (FromScalar Json.Document)

/-- The names of the types. -/
def names : List (String × BaseType) := [
  ("String", .text), ("i32", .int32), ("i64", .int64), ("f64", .double), ("bool", .boolean),
  ("Vec<u8>", .bytes), ("Uuid", .uuid), ("uuid::Uuid", .uuid), ("DateTime<Utc>", .timestamp),
  ("chrono::DateTime<chrono::Utc>", .timestamp), ("serde_json::Value", .json)]

end BaseType

structure FieldType where
  base : BaseType
  isOptional : Bool
  deriving DecidableEq

namespace FieldType

@[reducible] def Value (t : FieldType) : Type :=
  match t.isOptional with
  | true => Option t.base.Value
  | false => t.base.Value

def toScalar (t : FieldType) (x : t.Value) : Scalar :=
  match t with
  | ⟨_, true⟩ => ToScalar.toScalar (α := Option _) x
  | ⟨_, false⟩ => ToScalar.toScalar x

def fromScalar (t : FieldType) (s : Scalar) : Except ConversionError t.Value :=
  match t with
  | ⟨base, true⟩ => TypedStorage.fromScalar (α := Option base.Value) s
  | ⟨base, false⟩ => TypedStorage.fromScalar (α := base.Value) s

/-- The type that a declaration names. -/
def ofName? (name : String) : Option FieldType :=
  let bare := FieldTypeName.withoutSpaces name.toList
  (BaseType.names.lookup (FieldTypeName.inner name)).map fun base => ⟨base, FieldTypeName.stripOption bare ≠ bare⟩

end FieldType

end TypedStorage
