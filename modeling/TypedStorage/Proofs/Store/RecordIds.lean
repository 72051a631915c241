/-
The ids in changes. A change names its record by a text of the key, and that is what listeners tell records by. Keys of
one kind are told apart by it, whatever the kind is (`Scalar.eq_of_idText`): the text of each kind is read back, if not by
the reader of literals then by a reader of its own. So no two keys of a record type share an id, with one exception: a
key that is optional and absent is named as the text `NULL` is (`RecordType.eq_of_idText`).
-/
import TypedStorage.Proofs.Double.Text
import TypedStorage.Proofs.Json.Distinct
import TypedStorage.Proofs.Record.Row
import TypedStorage.Proofs.Scalar.Literal
import TypedStorage.Proofs.Store.Announcements
import TypedStorage.Proofs.Time.Loose
import TypedStorage.Proofs.Uuid

namespace TypedStorage

open Text

/-! ## Texts of keys -/

namespace Scalar

theorem quoteLiteral_injective : Function.Injective quoteLiteral := by
  intro s s' h
  have hend : ([] : List Char).head? ≠ some '\'' := by simp
  have hread := Literal.read?_quoteLiteral s hend
  rw [h, Literal.read?_quoteLiteral s' hend] at hread
  simpa [eq_comm] using hread

theorem blobLiteral_injective : Function.Injective blobLiteral := by
  intro bytes bytes' h
  have hread := Literal.read?_blobLiteral bytes []
  rw [h, Literal.read?_blobLiteral bytes'] at hread
  simpa [eq_comm] using hread

/-- **Keys of one kind with one text are one key.** -/
theorem eq_of_idText {v w : Scalar} (hk : v.kindName = w.kindName) (h : v.idText = w.idText) : v = w := by
  cases v <;> cases w <;> simp [kindName] at hk
  case null.null => rfl
  case text.text s s' => exact congrArg _ h
  case integer.integer i i' => exact congrArg _ (Int64.toInt_inj.1 (intText_injective h))
  case real.real x x' => exact congrArg _ (injective_of_read Double.ofText?_text h)
  case boolean.boolean b b' => cases b <;> cases b' <;> first | rfl | exact absurd h (by decide)
  case blob.blob bytes bytes' => exact congrArg _ (blobLiteral_injective h)
  case timestamp.timestamp t t' => exact congrArg _ (injective_of_read Timestamp.ofLooseText?_text h)
  case uuid.uuid u u' => exact congrArg _ (injective_of_read Uuid.ofText?_text h)
  case json.json d d' => exact congrArg _ (Json.Document.text_injective (quoteLiteral_injective h))

/-- A key that is absent has the id of a text. -/
theorem idText_eq_null {v : Scalar} (h : v.idText = null.idText) : v = .null ∨ v = .text "NULL" := by
  cases v with
  | null => exact .inl rfl
  | text s => exact .inr (congrArg _ h)
  | integer i =>
    have hdigits := congrArg String.toList h
    rw [idText, intText, String.toList_ofList] at hdigits
    exact absurd hdigits (ne_of_read readInt?_intDigits (by decide) _)
  | real x => exact absurd h (ne_of_read Double.ofText?_text (by decide) x)
  | boolean b => cases b <;> exact absurd h (by decide)
  | blob bytes => exact absurd (congrArg (fun s => s.toList.head?) h) (by simp [idText, literal, blobLiteral])
  | timestamp t => exact absurd h (ne_of_read Timestamp.ofLooseText?_text (by decide) t)
  | uuid u => exact absurd h (ne_of_read Uuid.ofText?_text (by decide) u)
  | json d => exact absurd (congrArg (fun s => s.toList.head?) h) (by simp [idText, literal, quoteLiteral, quoteChars])

/-- One of the keys is absent, and the other one is the text that this is written as. -/
def AbsentAndNamed (v w : Scalar) : Prop := v = .null ∧ w = .text "NULL" ∨ v = .text "NULL" ∧ w = .null

end Scalar

/-! ## Keys of one type -/

/-- The kind of the scalars of a type. -/
def BaseType.kindName : BaseType → String
  | .text => "Text"
  | .int32 | .int64 => "Integer"
  | .double => "Real"
  | .boolean => "Boolean"
  | .bytes => "Blob"
  | .uuid => "Uuid"
  | .timestamp => "Timestamp"
  | .json => "Json"

theorem BaseType.kindName_toScalar {b : BaseType} (x : b.Value) : (toScalar x).kindName = b.kindName := by
  cases b <;> rfl

theorem BaseType.eq_of_idText {b : BaseType} {x y : b.Value} (h : (toScalar x).idText = (toScalar y).idText) :
    toScalar x = toScalar y :=
  Scalar.eq_of_idText ((kindName_toScalar x).trans (kindName_toScalar y).symm) h

/-- **Keys of one type with one text are one key**, if the key cannot be absent. -/
theorem FieldType.eq_of_idText {t : FieldType} {x y : t.Value} (h : (t.toScalar x).idText = (t.toScalar y).idText) :
    t.toScalar x = t.toScalar y ∨ t.isOptional = true ∧ (t.toScalar x).AbsentAndNamed (t.toScalar y) := by
  obtain ⟨base, isOptional⟩ := t
  cases isOptional with
  | false => exact .inl (BaseType.eq_of_idText h)
  | true =>
    cases x with
    | none =>
      rcases Scalar.idText_eq_null h.symm with hy | hy
      · exact .inl hy.symm
      · exact .inr ⟨rfl, .inl ⟨rfl, hy⟩⟩
    | some x =>
      cases y with
      | none =>
        rcases Scalar.idText_eq_null h with hx | hx
        · exact .inl hx
        · exact .inr ⟨rfl, .inr ⟨hx, rfl⟩⟩
      | some y => exact .inl (BaseType.eq_of_idText h)

namespace RecordType

variable {τ : Type} {t : RecordType}

theorem exists_keyValue (x : t.Record τ) :
    ∃ (type : FieldType) (v : type.Value), t.key.role = .stored type ∧ t.keyValue x = type.toScalar v :=
  Values.exists_of_mem_scalars (keyValue_mem_scalars x)

theorem eq_of_idText {x y : t.Record τ} (h : (t.keyValue x).idText = (t.keyValue y).idText) :
    t.keyValue x = t.keyValue y ∨ t.key.isOptional = true ∧ (t.keyValue x).AbsentAndNamed (t.keyValue y) := by
  obtain ⟨type, v, hrole, hx⟩ := exists_keyValue x
  obtain ⟨type', w, hrole', hy⟩ := exists_keyValue y
  obtain rfl : type = type' := FieldRole.stored.inj (hrole.symm.trans hrole')
  have hoptional : t.key.isOptional = type.isOptional := by rw [Field.isOptional, hrole]
  rw [hx, hy] at h ⊢
  rw [hoptional]
  exact FieldType.eq_of_idText h

end RecordType

/-! ## Changes -/

variable {σ α : Type}

/-- The keys of the records that an operation writes or deletes. -/
def Operation.keys (S : RecordSchema α) : Operation α → List Scalar
  | .create x | .update x | .upsert x => [S.keyValue x]
  | .createMany xs => xs.map S.keyValue
  | .delete key => [key]
  | .deleteMany keys => keys
  | .getById _ | .listAll | .find _ | .findOne _ => []

namespace RecordSchema

variable {S : RecordSchema α}

end RecordSchema

namespace RecordStore

variable {s : RecordStore σ Nat α}

end RecordStore

/-- A key that is absent and one that is the text `NULL` do share an id. -/
example : Scalar.null.idText = (Scalar.text "NULL").idText := rfl

end TypedStorage
