/-
The JSON form of filters and sort keys.
-/
import TypedStorage.Query.Statement
import TypedStorage.Scalar.Json

namespace TypedStorage

open Json

namespace Operator

def document (op : Operator) : Document := .ofString op.name

instance : Writable Operator := ⟨fun op => .ok op.document⟩

instance : Readable Operator := ⟨Choice.among (all.map fun op => (op.name, op))⟩

end Operator

namespace Operand

def document : Operand → Document
  | .single v => .choice "Single" v.document
  | .multiple vs => .choice "Multiple" (.ofList (vs.map Scalar.document))

instance : Writable Operand := ⟨fun o => .ok o.document⟩

instance : Readable Operand where
  read? budget x := do
    let c ← Choice.ofSource? budget x
    match c.name with
    | "Single" => c.holds.map .single
    | "Multiple" => c.holds.map .multiple
    | _ => none

end Operand

namespace Filter

def document (f : Filter) : Document :=
  .ofPairs [("field", .ofString f.field), ("operator", f.operator.document), ("value", f.operand.document)]

instance : Writable Filter := ⟨fun f => .ok f.document⟩

instance : Readable Filter where
  read? budget x := do
    let f ← Fields.ofSource? ["field", "operator", "value"] budget x
    return ⟨← f.required "field", ← f.required "operator", ← f.required "value"⟩

end Filter

namespace Direction

def document (d : Direction) : Document := .ofString d.name

instance : Readable Direction := ⟨Choice.among (all.map fun d => (d.name, d))⟩

end Direction

namespace SortKey

def document (k : SortKey) : Document :=
  .ofPairs [("field", .ofString k.field), ("direction", k.direction.document)]

instance : Writable SortKey := ⟨fun k => .ok k.document⟩

instance : Readable SortKey where
  read? budget x := do
    let f ← Fields.ofSource? ["field", "direction"] budget x
    return ⟨← f.required "field", ← f.required "direction"⟩

end SortKey

end TypedStorage
