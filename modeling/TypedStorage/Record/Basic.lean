/-
Record types and the records of a type. A record type comes from a declaration that keeps the rules: exactly
one field is the key, and every field that is not skipped has a name that a column may have and a type whose
values are scalars. A record holds a value for every field, in order; the value of a skipped field is of any
type, `σ` of the field's name, and reading a row leaves it at the default of this type.
-/
import TypedStorage.Record.Declaration
import TypedStorage.Record.FieldType
import TypedStorage.Record.Mapping

namespace TypedStorage

inductive FieldRole where
  | stored (type : FieldType)
  | skipped
  deriving DecidableEq

namespace FieldRole

variable {σ : Type}

def isStored : FieldRole → Bool
  | .stored _ => true
  | .skipped => false

@[reducible] def Value (σ : Type) : FieldRole → Type
  | .stored type => type.Value
  | .skipped => σ

/-- The scalar of a stored value. -/
def scalar? : (role : FieldRole) → role.Value σ → Option Scalar
  | .stored type, x => some (type.toScalar x)
  | .skipped, _ => none

/-- The value that a row has in a column; a skipped one is not looked for. -/
def read [Inhabited σ] (role : FieldRole) (column : String) (row : ValueMap) : Except StoreError (role.Value σ) :=
  match role with
  | .stored type => (type.fromScalar (row.cell column)).mapError (StoreError.ofField column)
  | .skipped => .ok (default : σ)

end FieldRole

structure Field where
  name : String
  column : String
  /-- The type of the column, in the words that its statement has. -/
  keyword : String
  isKey : Bool
  isNotNull : Bool
  isUnique : Bool
  default : Option Expression
  role : FieldRole
  valid_of_stored : role.isStored = true → Identifier.fault? column = none
  stored_of_key : isKey = true → role.isStored = true

namespace Field

def isStored (f : Field) : Bool := f.role.isStored

/-- The field of a declaration. -/
def ofDeclaration (d : FieldDeclaration) : Except DeclarationError Field :=
  match d.settings with
  | .error e => .error e
  | .ok s =>
    let field (role : FieldRole) (hc : role.isStored = true → Identifier.fault? s.column = none)
        (hk : d.isKey = true → role.isStored = true) : Field :=
      ⟨d.name, s.column, s.keyword, d.isKey, s.isNotNull, s.isUnique, s.default, role, hc, hk⟩
    if s.isSkipped then
      if hk : d.isKey = true then .error .keySkipped
      else .ok (field .skipped (by simp [FieldRole.isStored]) (fun h => absurd h hk))
    else
      match hc : Declaration.nameFault? s.column with
      | some fault => .error (.fieldName s.column fault)
      | none =>
        match FieldType.ofName? d.typeName with
        | none => .error (.fieldType (String.ofList (FieldTypeName.withoutSpaces d.typeName.toList)))
        | some type => .ok (field (.stored type) (fun _ => Declaration.nameFault?_eq s.column ▸ hc) (fun _ => rfl))

/-- The clause of the field's column; an expression that is no literal means what `constants` says. -/
def columnDefinition (constants : Expression → Scalar) (f : Field) : ColumnDefinition :=
  ⟨f.column, .ofKeyword f.keyword, f.isKey, f.isNotNull, f.isUnique,
    f.default.map fun e => (Lexeme.scalar? e).getD (constants e)⟩

end Field

/-! ## Record types -/

structure RecordType where
  name : String
  table : String
  fields : List Field
  table_valid : Identifier.fault? table = none
  one_key : (fields.filter (·.isKey)).length = 1

namespace RecordType

/-- The record type of a declaration: the table is looked at first, then the shape, then field by field. -/
def ofDeclaration (d : Declaration) : Except DeclarationError RecordType := do
  let ⟨table, valid⟩ ← d.table
  if d.shape ≠ .namedFields then throw .noNamedFields
  let fields ← d.fields.mapM Field.ofDeclaration
  if h : (fields.filter (·.isKey)).length = 1 then return ⟨d.name, table, fields, valid, h⟩
  else throw (.keyCount (fields.filter (·.isKey)).length)

/-- The field that is the key. -/
def key (t : RecordType) : Field := (t.fields.filter (·.isKey)).head (by
  intro h
  have := t.one_key
  simp [h] at this)

/-- The fields that the table keeps. -/
def stored (t : RecordType) : List Field := t.fields.filter Field.isStored

def definition (t : RecordType) (constants : Expression → Scalar) : TableDefinition :=
  ⟨t.table, t.stored.map (Field.columnDefinition constants), .none⟩

end RecordType

/-! ## Records -/

/-- One type for all skipped fields. -/
instance Values.alike : Coe Type (String → Type) := ⟨fun σ _ => σ⟩

/-- A value for every field. -/
def Values (σ : String → Type) : List Field → Type
  | [] => Unit
  | f :: fields => f.role.Value (σ f.name) × Values σ fields

namespace Values

variable {σ : String → Type}

/-- The stored fields with their scalars. -/
def scalars : (fields : List Field) → Values σ fields → List (Field × Scalar)
  | [], _ => []
  | f :: fields, (x, xs) => ((f.role.scalar? x).map fun s => (f, s)).toList ++ scalars fields xs

/-- Reads field after field; the first that cannot be read is the error. -/
def read [∀ name, Inhabited (σ name)] : (fields : List Field) → ValueMap → Except StoreError (Values σ fields)
  | [], _ => .ok ()
  | f :: fields, row => do
    let x ← f.role.read f.column row
    let xs ← read fields row
    return (x, xs)

end Values

namespace RecordType

variable {σ : String → Type}

/-- A record of the type. -/
@[reducible] def Record (σ : String → Type) (t : RecordType) : Type := Values σ t.fields

def fieldValues (t : RecordType) (x : t.Record σ) : ValueMap :=
  .ofPairs ((Values.scalars t.fields x).map fun p => (p.1.column, p.2))

def keyValue (t : RecordType) (x : t.Record σ) : Scalar :=
  (((Values.scalars t.fields x).find? fun p => p.1.isKey).map Prod.snd).getD .null

def mapping (t : RecordType) : Mapping (t.Record σ) := ⟨t.table, t.key.column, t.keyValue, t.fieldValues⟩

/-- The schema of the type, with the meaning of the defaults that are no literals. -/
def schema [∀ name, Inhabited (σ name)] (t : RecordType) (constants : Expression → Scalar) : RecordSchema (t.Record σ) :=
  { t.mapping with ofRow := Values.read t.fields, definition := t.definition constants }

end RecordType

end TypedStorage
