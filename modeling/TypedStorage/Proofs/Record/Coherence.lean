/-
The parts of a schema fit together. A declaration is turned into values for writing, into a definition of the table
and into a way to read rows, each on its own; `coherent_schema` says that they agree, for declarations of any size
with distinct columns: on the columns, on the key, on what may be null, and on what comes back of a record.

What a column is read for is told by what it can change: a row is read differently (`Reads`).
-/
import TypedStorage.Proofs.Record.Declared
import TypedStorage.Proofs.Record.Row
import TypedStorage.Record.Samples

namespace TypedStorage

/-! ## Values of a type -/

namespace BaseType

theorem nonempty_value (b : BaseType) : Nonempty b.Value := by
  cases b with
  | text => exact ⟨""⟩
  | int32 => exact ⟨(0 : Int32)⟩
  | int64 => exact ⟨(0 : Int64)⟩
  | double => exact ⟨Double.nan⟩
  | boolean => exact ⟨false⟩
  | bytes => exact ⟨([] : List UInt8)⟩
  | uuid => exact ⟨(⟨0⟩ : Uuid)⟩
  | timestamp => exact ⟨(⟨0, 0, by decide, by decide, by decide⟩ : Timestamp)⟩
  | json => exact ⟨(⟨.null, by trivial⟩ : Json.Document)⟩

theorem exists_unreadable (b : BaseType) : ∃ s : Scalar, s ≠ .null ∧ FromScalar.read? (α := b.Value) s = none := by
  cases b with
  | bytes => exact ⟨.text "", Scalar.noConfusion, rfl⟩
  | _ => exact ⟨.blob [], Scalar.noConfusion, rfl⟩

end BaseType

namespace FieldType

theorem nonempty_value (t : FieldType) : Nonempty t.Value := by
  obtain ⟨base, isOptional⟩ := t
  cases isOptional with
  | false => exact base.nonempty_value
  | true => exact ⟨(none : Option base.Value)⟩

theorem exists_error (t : FieldType) : ∃ s e, t.fromScalar s = .error e := by
  obtain ⟨base, isOptional⟩ := t
  obtain ⟨s, hnull, hs⟩ := base.exists_unreadable
  cases isOptional with
  | false =>
    refine ⟨s, ⟨FromScalar.target base.Value, s.kindName⟩, ?_⟩
    simp only [fromScalar, TypedStorage.fromScalar, hs]
  | true =>
    have hread := (read?_option (α := base.Value) hnull).trans (congrArg (Option.map some) hs)
    refine ⟨s, ⟨FromScalar.target (Option base.Value), s.kindName⟩, ?_⟩
    simp only [fromScalar, TypedStorage.fromScalar, hread, Option.map_none]

end FieldType

/-! ## Reading -/

/-- What is wrong with the value that a row has for a field. -/
def Field.fault? (f : Field) (row : ValueMap) : Option ConversionError :=
  match f.role with
  | .stored type =>
    match type.fromScalar (row.cell f.column) with
    | .ok _ => none
    | .error e => some e
  | .skipped => none

variable {σ : String → Type}

/-- What is left of a value when it was written and read. -/
def FieldRole.reset {τ : Type} [Inhabited τ] : (role : FieldRole) → role.Value τ → role.Value τ
  | .stored _, x => x
  | .skipped, _ => (default : τ)

namespace Values

/-- The record with its skipped fields at the default. -/
def reset [∀ name, Inhabited (σ name)] : (fields : List Field) → Values σ fields → Values σ fields
  | [], _ => ()
  | f :: fields, (x, xs) => (f.role.reset x, reset fields xs)

theorem nonempty [∀ name, Nonempty (σ name)] (fields : List Field) : Nonempty (Values σ fields) := by
  induction fields with
  | nil => exact ⟨()⟩
  | cons f fields ih =>
    obtain ⟨xs⟩ := ih
    have hvalue : Nonempty (f.role.Value (σ f.name)) := by
      cases f.role with
      | stored type => exact type.nonempty_value
      | skipped => exact inferInstanceAs (Nonempty (σ f.name))
    obtain ⟨x⟩ := hvalue
    exact ⟨(x, xs)⟩

/-- A record is read from a row that has its stored values, but for what is skipped. -/
theorem read_scalars [∀ name, Inhabited (σ name)] {fields : List Field} {x : Values σ fields} {row : ValueMap}
    (hx : ∀ p ∈ scalars fields x, row.cell p.1.column = p.2) : read fields row = .ok (reset fields x) := by
  induction fields with
  | nil => rfl
  | cons f fields ih =>
    obtain ⟨x, xs⟩ := x
    have ih := @ih xs (fun p hp => hx p (List.mem_append_right _ hp))
    obtain ⟨name, column, keyword, isKey, isNotNull, isUnique, default, role, hv, hk⟩ := f
    have hread : FieldRole.read role column row = .ok (role.reset x) := by
      cases role with
      | skipped => rfl
      | stored type =>
        rw [FieldRole.read, hx _ (List.mem_append_left _ List.mem_cons_self), FieldType.fromScalar_toScalar]
        rfl
    rw [read, hread, ih]
    rfl

theorem pair_eq_error_iff {α β : Type} (x : α) (r : Except StoreError β) (e : StoreError) :
    (r >>= fun y => (pure (x, y) : Except StoreError (α × β))) = .error e ↔ r = .error e := by
  cases r with
  | error e' =>
    show (.error e' : Except StoreError (α × β)) = .error e ↔ _
    rw [Except.error.injEq, Except.error.injEq]
  | ok y =>
    constructor
    · rintro ⟨⟩
    · rintro ⟨⟩

/-- The error of a row is that of the first stored field that cannot be read. -/
theorem read_eq_error_iff [∀ name, Inhabited (σ name)] (fields : List Field) (row : ValueMap) (e : StoreError) :
    (read fields row : Except StoreError (Values σ fields)) = .error e ↔
      (fields.filter Field.isStored).findSome? (fun f => (f.fault? row).map (StoreError.ofField f.column)) = some e := by
  induction fields with
  | nil => simp [read]
  | cons f fields ih =>
    obtain ⟨name, column, keyword, isKey, isNotNull, isUnique, default, role, hv, hk⟩ := f
    cases role with
    | skipped => exact (pair_eq_error_iff _ _ e).trans ih
    | stored type =>
      cases hc : type.fromScalar (row.cell column) with
      | ok x =>
        have hrole : FieldRole.read (σ := σ name) (.stored type) column row = .ok x := by
          rw [FieldRole.read, hc]
          rfl
        rw [read, hrole, List.filter_cons_of_pos rfl, List.findSome?_cons]
        simp only [Field.fault?, hc, Option.map_none]
        exact (pair_eq_error_iff _ _ e).trans ih
      | error ce =>
        have hrole : FieldRole.read (σ := σ name) (.stored type) column row = .error (.ofField column ce) := by
          rw [FieldRole.read, hc]
          rfl
        rw [read, hrole, List.filter_cons_of_pos rfl, List.findSome?_cons]
        simp only [Field.fault?, hc, Option.map_some, Option.some.injEq]
        constructor
        · rintro ⟨⟩
          rfl
        · rintro rfl
          rfl

/-- What is not stored is not looked at. -/
theorem read_congr [∀ name, Inhabited (σ name)] {fields : List Field} {row row' : ValueMap}
    (h : ∀ f ∈ fields, f.isStored → row.cell f.column = row'.cell f.column) :
    (read fields row : Except StoreError (Values σ fields)) = read fields row' := by
  induction fields with
  | nil => rfl
  | cons f fields ih =>
    have hf := h f List.mem_cons_self
    have ih := @ih fun g hg => h g (List.mem_cons_of_mem _ hg)
    obtain ⟨name, column, keyword, isKey, isNotNull, isUnique, default, role, hv, hk⟩ := f
    cases role with
    | skipped => rw [read, read, ih]; rfl
    | stored type =>
      have hcell : row.cell column = row'.cell column := hf rfl
      rw [read, read, ih, FieldRole.read, FieldRole.read, hcell]

end Values

/-! ## Schemas -/

variable {t : RecordType}

/-- A column is read where it can change what a row is read as, alone. -/
def RecordSchema.Reads {α : Type} (S : RecordSchema α) (column : String) : Prop :=
  ∃ row row', (∀ c, c ≠ column → row.cell c = row'.cell c) ∧ S.ofRow row ≠ S.ofRow row'

/-- The parts of the schema of a declaration fit together. -/
structure Coherent [∀ name, Inhabited (σ name)] (d : Declaration) (t : RecordType) (S : RecordSchema (t.Record σ)) :
    Prop where
  /-- There is a field for each that is declared, in order. -/
  fields : List.Forall₂ (fun f g => Field.ofDeclaration f = .ok g) d.fields t.fields
  /-- The table has the columns of the fields that are not skipped, in order. -/
  columns : S.definition.columns.map (·.name) = t.stored.map (·.column)
  /-- These are the columns that are written. -/
  writes : ∀ x c, c ∈ (S.fieldValues x).keys ↔ c ∈ t.stored.map (·.column)
  /-- And those that are read. -/
  reads : ∀ c, S.Reads c ↔ c ∈ t.stored.map (·.column)
  /-- One column of the table is the key, that of the mapping. -/
  key : S.definition.primaryKey = [S.keyColumn]
  /-- It holds the key of the record. -/
  keyValue : ∀ x, (S.fieldValues x).get? S.keyColumn = some (S.keyValue x)
  valid : S.definition.validate = .ok ()
  /-- What is written is read, but for what is skipped. -/
  round : ∀ x, S.ofRow (S.fieldValues x) = .ok (Values.reset t.fields x)
  /-- Nothing depends on other columns. -/
  extra : ∀ row row', (∀ c ∈ t.stored.map (·.column), row.cell c = row'.cell c) → S.ofRow row = S.ofRow row'
  /-- No record has null in a column that must not be null, but for what attributes say. -/
  not_null : ∀ f ∈ d.fields, ¬ f.SaysNotNull → ∀ g, Field.ofDeclaration f = .ok g → g.isStored →
    ∀ c ∈ S.definition.columns, c.name = g.column → c.isNotNull → ∀ x, (S.fieldValues x).get? c.name ≠ some .null
  /-- A row cannot be read exactly where a value is at fault. -/
  fails : ∀ row, (∃ e, S.ofRow row = .error e) ↔ ∃ f ∈ t.stored, f.fault? row ≠ none
  /-- The error is that of the first such field, and names its column. -/
  error : ∀ row e, S.ofRow row = .error e ↔ ∃ before f after fault, t.stored = before ++ f :: after ∧
    (∀ g ∈ before, g.fault? row = none) ∧ f.fault? row = some fault ∧ e = .ofField f.column fault

namespace RecordType

variable (h : (t.stored.map (·.column)).Nodup) (x : t.Record σ)

theorem name_columnDefinition (constants : Expression → Scalar) :
    (t.definition constants).columns.map (·.name) = t.stored.map (·.column) := columns_definition constants

theorem primaryKey_definition (constants : Expression → Scalar) : (t.definition constants).primaryKey = [t.key.column] := by
  have hkey : t.stored.filter (·.isKey) = [t.key] := by
    rw [stored, List.filter_filter, ← filter_isKey]
    refine List.filter_congr fun f hf => ?_
    cases hk : f.isKey with
    | false => rfl
    | true => simp [Field.isStored, f.stored_of_key hk]
  rw [TableDefinition.primaryKey, definition, List.filter_map, List.map_map]
  show (t.stored.filter (·.isKey)).map _ = _
  rw [hkey]
  rfl

theorem forM_ok {ε α : Type} {f : α → Except ε Unit} {xs : List α} (h : ∀ x ∈ xs, f x = .ok ()) : xs.forM f = .ok () := by
  induction xs with
  | nil => rfl
  | cons x xs ih =>
    show (f x >>= fun _ => xs.forM f) = _
    rw [h x List.mem_cons_self]
    exact ih fun y hy => h y (List.mem_cons_of_mem x hy)

/-- The names in a definition were looked at when the type was made. -/
theorem validate_definition (constants : Expression → Scalar) : (t.definition constants).validate = .ok () := by
  have hname : ∀ {name : String}, Identifier.fault? name = none → validateName name = .ok name := by
    intro name h
    rw [validateName, h]
  rw [TableDefinition.validate, definition, hname t.table_valid]
  refine forM_ok fun c hc => ?_
  obtain ⟨f, hf, rfl⟩ := List.mem_map.1 hc
  rw [TableDefinition.validateColumn, Field.columnDefinition, hname (f.valid_of_stored (List.mem_filter.1 hf).2)]
  rfl

/-- Only a value that may be absent is null. -/
theorem ne_null_of_mem_scalars {p : Field × Scalar} (hp : p ∈ Values.scalars t.fields x)
    (hopt : ∀ type, p.1.role = .stored type → type.isOptional = false) : p.2 ≠ .null := by
  obtain ⟨type, v, hrole, hv⟩ := Values.exists_of_mem_scalars hp
  rw [hv]
  exact FieldType.toScalar_ne_null (hopt type hrole) v

/-! ## What can be read -/

section

variable [∀ name, Inhabited (σ name)]

theorem ofRow_eq_error_iff (row : ValueMap) (e : StoreError) :
    (Values.read t.fields row : Except StoreError (t.Record σ)) = .error e ↔
      ∃ before f after fault, t.stored = before ++ f :: after ∧ (∀ g ∈ before, g.fault? row = none) ∧
        f.fault? row = some fault ∧ e = .ofField f.column fault := by
  rw [Values.read_eq_error_iff, List.findSome?_eq_some_iff]
  constructor
  · rintro ⟨before, f, after, hsplit, hf, hbefore⟩
    obtain ⟨fault, hfault, rfl⟩ := Option.map_eq_some_iff.1 hf
    exact ⟨before, f, after, fault, hsplit, fun g hg => Option.map_eq_none_iff.1 (hbefore g hg), hfault, rfl⟩
  · rintro ⟨before, f, after, fault, hsplit, hbefore, hfault, rfl⟩
    refine ⟨before, f, after, hsplit, ?_, fun g hg => ?_⟩
    · rw [hfault, Option.map_some]
    · rw [hbefore g hg, Option.map_none]

theorem exists_error_iff (row : ValueMap) :
    (∃ e, (Values.read t.fields row : Except StoreError (t.Record σ)) = .error e) ↔
      ∃ f ∈ t.stored, f.fault? row ≠ none := by
  constructor
  · rintro ⟨e, he⟩
    obtain ⟨before, f, after, fault, hsplit, -, hfault, -⟩ := (ofRow_eq_error_iff row e).1 he
    refine ⟨f, ?_, ?_⟩
    · rw [hsplit]
      exact List.mem_append_right _ List.mem_cons_self
    · rw [hfault]
      exact Option.some_ne_none fault
  · rintro ⟨f, hf, hfault⟩
    cases hr : (Values.read t.fields row : Except StoreError (t.Record σ)) with
    | error e => exact ⟨e, rfl⟩
    | ok x =>
      -- a record that is read has no field at fault
      have hnone : t.stored.findSome? (fun f => (f.fault? row).map (StoreError.ofField f.column)) = none := by
        cases hs : t.stored.findSome? fun f => (f.fault? row).map (StoreError.ofField f.column) with
        | none => rfl
        | some e =>
          rw [(Values.read_eq_error_iff t.fields row e).2 hs] at hr
          cases hr
      rw [List.findSome?_eq_none_iff] at hnone
      exact absurd (Option.map_eq_none_iff.1 (hnone f hf)) hfault

theorem ofRow_congr {row row' : ValueMap} (h : ∀ c ∈ t.stored.map (·.column), row.cell c = row'.cell c) :
    (Values.read t.fields row : Except StoreError (t.Record σ)) = Values.read t.fields row' :=
  Values.read_congr fun _ hf hstored => h _ (List.mem_map_of_mem (List.mem_filter.2 ⟨hf, hstored⟩))

include h in
theorem ofRow_fieldValues (constants : Expression → Scalar) :
    (t.schema constants).ofRow (t.fieldValues x) = .ok (Values.reset t.fields x) := by
  refine Values.read_scalars fun p hp => ?_
  rw [KeyMap.cell, get?_fieldValues_of_mem h x hp]
  rfl

include h in
/-- Each stored column can make a row unreadable that was readable. -/
theorem reads_iff (constants : Expression → Scalar) (c : String) :
    (t.schema (σ := σ) constants).Reads c ↔ c ∈ t.stored.map (·.column) := by
  constructor
  · rintro ⟨row, row', hother, hne⟩
    by_contra hc
    refine hne (ofRow_congr fun c' hc' => hother c' ?_)
    rintro rfl
    exact hc hc'
  · intro hc
    obtain ⟨f, hf, rfl⟩ := List.mem_map.1 hc
    obtain ⟨x⟩ := Values.nonempty (σ := σ) t.fields
    obtain ⟨s, hs⟩ := exists_scalar x hf
    obtain ⟨type, -, hrole, -⟩ := Values.exists_of_mem_scalars hs
    obtain ⟨bad, ce, hbad⟩ := type.exists_error
    refine ⟨t.fieldValues x, (t.fieldValues x).insert f.column bad, ?_, ?_⟩
    · intro c hne
      rw [KeyMap.cell, KeyMap.cell, KeyMap.get?_insert_other _ hne]
    · have hfault : f.fault? ((t.fieldValues x).insert f.column bad) ≠ none := by
        have hcell : ((t.fieldValues x).insert f.column bad).cell f.column = bad := by
          rw [KeyMap.cell, KeyMap.get?_insert_self]
          rfl
        dsimp only at hrole
        rw [Field.fault?, hrole]
        simp only [hcell, hbad]
        exact Option.some_ne_none ce
      obtain ⟨e, he⟩ := (exists_error_iff (σ := σ) _).2 ⟨f, hf, hfault⟩
      rw [ofRow_fieldValues h x constants]
      show _ ≠ Values.read t.fields _
      rw [he]
      rintro ⟨⟩

include h in
/--
**The schema of a declaration is coherent**, for every declaration that is accepted and keeps its fields in distinct
columns.
-/
theorem coherent_schema {d : Declaration} (hd : ofDeclaration d = .ok t) (constants : Expression → Scalar) :
    Coherent (σ := σ) d t (t.schema constants) where
  fields := forall₂_of_declaration hd
  columns := name_columnDefinition constants
  writes x _ := mem_keys_fieldValues h x
  reads := reads_iff h constants
  key := primaryKey_definition constants
  keyValue x := get?_fieldValues_of_mem h x (keyValue_mem_scalars x)
  valid := validate_definition constants
  round x := ofRow_fieldValues h x constants
  extra _ _ hrows := ofRow_congr hrows
  not_null f hf hsays g hg hstored c hc hname hnull x := by
    have hmem : g ∈ t.stored := List.mem_filter.2 ⟨mem_of_declaration hd hf hg, hstored⟩
    obtain ⟨g', hg', rfl⟩ := List.mem_map.1 hc
    obtain rfl : g' = g := List.inj_on_of_nodup_map h hg' hmem hname
    obtain ⟨s, hs⟩ := exists_scalar x hmem
    have hne : s ≠ .null :=
      ne_null_of_mem_scalars x hs fun type hrole => Field.isOptional_of_isNotNull hg hsays hnull hrole
    show (t.fieldValues x).get? g'.column ≠ some .null
    rw [get?_fieldValues_of_mem h x hs]
    exact fun he => hne (Option.some.inj he)
  fails := exists_error_iff
  error := ofRow_eq_error_iff

end

end RecordType

open Samples in
theorem RecordType.coherent_schema_sample : ∃ t : RecordType, RecordType.ofDeclaration sample = .ok t ∧
    (t.stored.map (·.column)).Nodup ∧ Coherent (σ := Nat) sample t (t.schema fun _ => .null) := by
  have hcolumns : (RecordType.ofDeclaration sample).map (fun t => t.stored.map (·.column)) =
      .ok ["uid", "code", "ratio_value", "data", "meta", "label", "seen", "parent", "active", "extra", "score"] := by
    decide +kernel
  cases ht : RecordType.ofDeclaration sample with
  | error e =>
    rw [ht] at hcolumns
    cases hcolumns
  | ok t =>
    rw [ht] at hcolumns
    have hn : (t.stored.map (·.column)).Nodup := by
      have heq : t.stored.map (·.column) = _ := Except.ok.inj hcolumns
      rw [heq]
      decide
    exact ⟨t, rfl, hn, RecordType.coherent_schema hn ht fun _ => .null⟩

end TypedStorage
