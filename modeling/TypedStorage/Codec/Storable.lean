/-
The types that a preference can have. Each has the kind it is kept as; any type that JSON can carry is kept
as JSON. Writing fails only where JSON has no form for the value, and reading gives nothing where the bytes
are of another kind or out of the range of the type.
-/
import TypedStorage.Codec.Tagged
import TypedStorage.Scalar.Convert
import TypedStorage.Json.Read
import TypedStorage.Json.Write

namespace TypedStorage

inductive CodecError where
  | json (cause : Json.WriteError)
  deriving DecidableEq

def CodecError.message : CodecError → String
  | .json cause => "JSON encoding failed: " ++ cause.message

class Storable (α : Type) where
  kind : ValueKind
  toTagged : α → Except CodecError Tagged
  ofTagged? : Tagged → Option α

namespace Storable

variable {α : Type}

def encode [Storable α] (x : α) : Except CodecError (List UInt8) := (toTagged x).map Tagged.encode

def decode? [Storable α] (stored : List UInt8) : Option α :=
  (Tagged.decode? stored (kind α)).bind ofTagged?

instance : Storable String where
  kind := .string
  toTagged s := .ok (.string s)
  ofTagged?
    | .string s => some s
    | _ => none

instance : Storable (List UInt8) where
  kind := .bytes
  toTagged b := .ok (.bytes b)
  ofTagged?
    | .bytes b => some b
    | _ => none

instance : Storable Int64 where
  kind := .int
  toTagged i := .ok (.int i)
  ofTagged?
    | .int i => some i
    | _ => none

instance : Storable Int32 where
  kind := .int
  toTagged i := .ok (.int (Int64.ofInt i.toInt))
  ofTagged?
    | .int i => narrow? i
    | _ => none

instance : Storable Double where
  kind := .double
  toTagged x := .ok (.double x)
  ofTagged?
    | .double x => some x
    | _ => none

instance : Storable Bool where
  kind := .bool
  toTagged b := .ok (.bool b)
  ofTagged?
    | .bool b => some b
    | _ => none

instance : Storable Timestamp where
  kind := .date
  toTagged t := .ok (.date t)
  ofTagged?
    | .date t => some t
    | _ => none

instance : Storable Json.Document where
  kind := .json
  toTagged d := .ok (.json d)
  ofTagged?
    | .json d => some d
    | _ => none

end Storable

/-- A value that is kept as JSON. -/
structure AsJson (α : Type) where
  value : α

namespace AsJson

variable {α : Type}

def encode [Json.Writable α] (x : α) : Except CodecError (List UInt8) :=
  match Json.Writable.write x with
  | .ok d => .ok (Tagged.json d).encode
  | .error e => .error (.json e)

def decode? [Json.Readable α] (stored : List UInt8) : Option α :=
  match Tagged.decode? stored .json with
  | some (.json d) => Json.readDocument? d
  | _ => none

instance [Json.Writable α] [Json.Readable α] : Storable (AsJson α) where
  kind := .json
  toTagged x :=
    match Json.Writable.write x.value with
    | .ok d => .ok (.json d)
    | .error e => .error (.json e)
  ofTagged?
    | .json d => (Json.readDocument? d).map AsJson.mk
    | _ => none

end AsJson

end TypedStorage
