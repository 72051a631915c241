/-
The JSON text of values of the library's own types.
-/
import TypedStorage.Proofs.Json.Typed
import TypedStorage.Proofs.Time.Loose
import TypedStorage.Proofs.Uuid
import TypedStorage.Query.Json
import TypedStorage.Schema.Json
import TypedStorage.Signals.Change

namespace TypedStorage

open Json

/-! ## Scalars -/

theorem takes_timestamp (t : Timestamp) : Takes Readable.read? (.ofString t.shortText) t True :=
  (takes_string _).bind (Timestamp.ofLooseText?_shortText t)

theorem takes_uuid (u : Uuid) : Takes Readable.read? (.ofString u.text) u True :=
  (takes_string _).bind (Uuid.ofText?_text u)

namespace Scalar

/-- The scalar is no NaN and no infinity. -/
def IsFinite : Scalar → Prop
  | .real x => ∃ f, x = .finite f
  | _ => True

theorem takes_document (s : Scalar) : Takes Readable.read? s.document s s.IsFinite := by
  cases s with
  | null => exact takes_name (fun _ _ => rfl) fun _ => rfl
  | text s => exact takes_choice (fun _ _ => rfl) (fun _ _ => rfl) (takes_string s)
  | integer i => exact takes_choice (fun _ _ => rfl) (fun _ _ => rfl) (takes_int64 i)
  | real x => exact takes_choice (fun _ _ => rfl) (fun _ _ => rfl) (takes_double x)
  | boolean b => exact takes_choice (fun _ _ => rfl) (fun _ _ => rfl) (takes_bool b)
  | blob bytes =>
    have hbytes : Takes Readable.read? _ bytes True := (takes_ofList takes_uint8).congr (by simp)
    exact takes_choice (fun _ _ => rfl) (fun _ _ => rfl) hbytes
  | timestamp t => exact takes_choice (fun _ _ => rfl) (fun _ _ => rfl) (takes_timestamp t)
  | uuid u => exact takes_choice (fun _ _ => rfl) (fun _ _ => rfl) (takes_uuid u)
  | json d => exact takes_choice (fun _ _ => rfl) (fun _ _ => rfl) (Json.takes_document d)

theorem document_ne_null (s : Scalar) : s.document.tree ≠ .null := by
  cases s <;> exact Json.noConfusion

end Scalar

/-! ## Filters and sort keys -/

theorem Operator.takes_document (op : Operator) : Takes Readable.read? op.document op True :=
  takes_among (by cases op <;> rfl)

theorem Direction.takes_document (d : Direction) : Takes Readable.read? d.document d True :=
  takes_among (by cases d <;> rfl)

namespace Operand

def scalars : Operand → List Scalar
  | .single v => [v]
  | .multiple vs => vs

theorem takes_document (o : Operand) : Takes Readable.read? o.document o (∀ s ∈ o.scalars, s.IsFinite) := by
  cases o with
  | single v =>
    have hv := v.takes_document.congr (List.forall_mem_singleton (p := Scalar.IsFinite)).symm
    exact takes_choice (fun _ _ => rfl) (fun _ _ => rfl) hv
  | multiple vs => exact takes_choice (fun _ _ => rfl) (fun _ _ => rfl) (takes_ofList Scalar.takes_document)

end Operand

namespace Filter

def scalars (f : Filter) : List Scalar := f.operand.scalars

theorem takes_document (f : Filter) : Takes Readable.read? f.document f (∀ s ∈ f.scalars, s.IsFinite) := by
  obtain ⟨field, operator, operand⟩ := f
  refine takes_record (fun _ _ => rfl) rfl (by simp) fun f part h y => ?_
  simp only [Option.bind_eq_bind, h.required_bind "field" (by simp) (takes_string field),
    h.required_bind "operator" (by simp) operator.takes_document,
    h.required_bind "value" (by simp) operand.takes_document, Option.pure_def, Option.some.injEq, eq_comm (b := y),
    scalars, List.forall_mem_cons, true_and]
  tauto

end Filter

theorem SortKey.takes_document (k : SortKey) : Takes Readable.read? k.document k True := by
  obtain ⟨field, direction⟩ := k
  refine takes_record (fun _ _ => rfl) rfl (by simp) fun f part h y => ?_
  simp only [Option.bind_eq_bind, h.required_bind "field" (by simp) (takes_string field),
    h.required_bind "direction" (by simp) direction.takes_document, Option.pure_def, Option.some.injEq,
    eq_comm (b := y), List.forall_mem_cons, true_and]
  tauto

/-! ## Tables -/

theorem ColumnType.takes_document (t : ColumnType) : Takes Readable.read? t.document t True := by
  cases t with
  | custom name => exact takes_choice (fun _ _ => rfl) (fun _ _ => rfl) (takes_string name)
  | _ => exact takes_name (fun _ _ => rfl) fun _ => rfl

theorem TableOption.takes_name (o : TableOption) : Takes Readable.read? (.ofString o.name) o True :=
  takes_among (by cases o <;> rfl)

namespace ColumnDefinition

def scalars (c : ColumnDefinition) : List Scalar := c.default.toList

theorem takes_document (c : ColumnDefinition) : Takes Readable.read? c.document c (∀ s ∈ c.scalars, s.IsFinite) := by
  obtain ⟨name, type, isPrimaryKey, isNotNull, isUnique, default⟩ := c
  have hdefault := takes_ofOption (o := default) Scalar.takes_document Scalar.document_ne_null
  refine takes_record (fun _ _ => rfl) rfl (by simp) fun f part h y => ?_
  simp only [Option.bind_eq_bind, h.required_bind "name" (by simp) (takes_string name),
    h.required_bind "column_type" (by simp) type.takes_document,
    h.required_bind "is_primary_key" (by simp) (takes_bool isPrimaryKey),
    h.required_bind "is_not_null" (by simp) (takes_bool isNotNull),
    h.required_bind "is_unique" (by simp) (takes_bool isUnique), h.optional_bind "default_value" (by simp) hdefault,
    Option.pure_def, Option.some.injEq, eq_comm (b := y), scalars, Option.mem_toList, List.forall_mem_cons, true_and]
  tauto

end ColumnDefinition

namespace TableOptions

theorem mem_toList {o : TableOptions} {t : TableOption} : t ∈ o.toList ↔ o.contains t := by
  have hall : t ∈ TableOption.all := by cases t <;> decide
  rw [toList, List.mem_filter, and_iff_right hall]

end TableOptions

namespace TableDefinition

def scalars (d : TableDefinition) : List Scalar := d.columns.flatMap ColumnDefinition.scalars

end TableDefinition

/-! ## Change events -/

theorem ChangeType.takes_name (t : ChangeType) : Takes Readable.read? (.ofString t.name) t True :=
  takes_among (by cases t <;> rfl)

namespace ChangeEvent

def scalars (e : ChangeEvent) : List Scalar := e.change.payload.values

theorem takes_document (e : ChangeEvent) : Takes Readable.read? e.document e (∀ s ∈ e.scalars, s.IsFinite) := by
  obtain ⟨id, ⟨type, table, recordId, payload⟩, timestamp⟩ := e
  have hrecord : Takes Readable.read? _ recordId True :=
    (takes_ofOption takes_string fun _ => Json.noConfusion).congr (by simp)
  have hpayload : Takes Readable.read? (valuesDocument payload) payload (∀ s ∈ payload.values, s.IsFinite) :=
    (takes_ofMap Scalar.takes_document).congr List.forall_mem_map.symm
  refine takes_record (fun _ _ => rfl) rfl (by simp) fun f part h y => ?_
  simp only [Option.bind_eq_bind, h.required_bind "id" (by simp) (takes_uuid id),
    h.required_bind "change_type" (by simp) type.takes_name, h.required_bind "table" (by simp) (takes_string table),
    h.optional_bind "record_id" (by simp) hrecord, h.required_bind "payload" (by simp) hpayload,
    h.required_bind "timestamp" (by simp) (takes_timestamp timestamp), Option.pure_def, Option.some.injEq,
    eq_comm (b := y), scalars, List.forall_mem_cons, true_and]
  tauto

end ChangeEvent

end TypedStorage
