/-
Changes to records. A change says what happened in which table, to which record, and with what values; an
event is a change with an identity and an instant, which is what the JSON form carries.
-/
import TypedStorage.Scalar.Json

namespace TypedStorage

inductive ChangeType where
  | insert | update | delete | upsert
  deriving DecidableEq

namespace ChangeType

def all : List ChangeType := [.insert, .update, .delete, .upsert]

def name : ChangeType → String
  | .insert => "Insert"
  | .update => "Update"
  | .delete => "Delete"
  | .upsert => "Upsert"

end ChangeType

structure Change where
  type : ChangeType
  table : String
  recordId : Option String
  payload : ValueMap

namespace Change

/-- A change that names no record and carries no values. -/
def of (type : ChangeType) (table : String) : Change := ⟨type, table, none, .empty⟩

def withRecordId (c : Change) (id : String) : Change := { c with recordId := some id }

/-- The change with these values in the place of those it has. -/
def withPayload (c : Change) (values : ValueMap) : Change := { c with payload := values }

def addPayload (c : Change) (key : String) (value : Scalar) : Change :=
  { c with payload := c.payload.insert key value }

end Change

structure ChangeEvent where
  id : Uuid
  change : Change
  timestamp : Timestamp

/-! ## JSON form -/

open Json

namespace ChangeEvent

instance : Readable ChangeType := ⟨Choice.among (ChangeType.all.map fun t => (t.name, t))⟩

def document (e : ChangeEvent) : Document :=
  .ofPairs [("id", .ofString e.id.text), ("change_type", .ofString e.change.type.name),
    ("table", .ofString e.change.table), ("record_id", .ofOption (e.change.recordId.map .ofString)),
    ("payload", valuesDocument e.change.payload), ("timestamp", .ofString e.timestamp.shortText)]

instance : Writable ChangeEvent := ⟨fun e => .ok e.document⟩

instance : Readable ChangeEvent where
  read? budget x := do
    let f ← Fields.ofSource? ["id", "change_type", "table", "record_id", "payload", "timestamp"] budget x
    let id ← f.required "id"
    let change : Change := ⟨← f.required "change_type", ← f.required "table", ← f.optional "record_id",
      ← f.required "payload"⟩
    return ⟨id, change, ← f.required "timestamp"⟩

end ChangeEvent

end TypedStorage
