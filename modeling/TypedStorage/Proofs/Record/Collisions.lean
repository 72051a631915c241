/-
Fields that share a column. A declaration is looked at field by field (`exists_ofDeclaration_iff`), so nothing keeps
two fields from having one column, by a name that an attribute gives or because it is the other's name. The table of such
a type has the column twice, and the values of a record have one of the fields only, the last (`accepted_and_lost`).
-/
import Mathlib.Data.List.Dedup
import TypedStorage.Proofs.Record.Declared
import TypedStorage.Proofs.Record.Row
import TypedStorage.Record.Samples

namespace TypedStorage

/-! ## What is accepted -/

/-- The declaration has a table and named fields, each of which goes through by itself, and one of them is the key. -/
structure Declaration.Acceptable (d : Declaration) : Prop where
  table : ∃ name, d.table = .ok name
  shape : d.shape = .namedFields
  fields : ∀ f ∈ d.fields, ∃ g, Field.ofDeclaration f = .ok g
  key : (d.fields.filter (·.isKey)).length = 1

/-- What goes through for each goes through for a list. -/
theorem exists_mapM_of_forall {ε α β : Type} {f : α → Except ε β} {xs : List α} (h : ∀ x ∈ xs, ∃ y, f x = .ok y) :
    ∃ ys, xs.mapM f = .ok ys := by
  induction xs with
  | nil => exact ⟨[], rfl⟩
  | cons x xs ih =>
    obtain ⟨y, hy⟩ := h x List.mem_cons_self
    obtain ⟨ys, hys⟩ := ih fun x' hx => h x' (List.mem_cons_of_mem _ hx)
    refine ⟨y :: ys, ?_⟩
    rw [List.mapM_cons, hy, hys]
    rfl

theorem exists_of_forall₂ {α β : Type} {R : α → β → Prop} {xs : List α} {ys : List β} (h : List.Forall₂ R xs ys) :
    ∀ x ∈ xs, ∃ y, R x y := by
  induction h with
  | nil => simp
  | cons hfirst _ ih => exact List.forall_mem_cons.2 ⟨⟨_, hfirst⟩, ih⟩

/-- As many fields are keys as are declared to be. -/
theorem length_filter_isKey {fs : List FieldDeclaration} {gs : List Field}
    (h : List.Forall₂ (fun f g => Field.ofDeclaration f = .ok g) fs gs) :
    (gs.filter (·.isKey)).length = (fs.filter (·.isKey)).length := by
  induction h with
  | nil => rfl
  | cons hfirst _ ih =>
    obtain ⟨-, -, -, -, hkey, -⟩ := Field.of_declaration hfirst
    rw [List.filter_cons, List.filter_cons, hkey]
    split
    · rw [List.length_cons, List.length_cons, ih]
    · exact ih

namespace RecordType

/-- **Nothing is asked of two fields at a time**, but that only one of them is the key. -/
theorem exists_ofDeclaration_iff {d : Declaration} : (∃ t, ofDeclaration d = .ok t) ↔ d.Acceptable := by
  constructor
  · rintro ⟨t, ht⟩
    obtain ⟨htable, hshape, -⟩ := parts_of_declaration ht
    have hfields := forall₂_of_declaration ht
    exact ⟨htable, hshape, exists_of_forall₂ hfields, length_filter_isKey hfields ▸ t.one_key⟩
  · intro h
    obtain ⟨⟨table, valid⟩, htable⟩ := h.table
    obtain ⟨fields, hfields⟩ := exists_mapM_of_forall h.fields
    have hkey : (fields.filter (·.isKey)).length = 1 := (length_filter_isKey (forall₂_of_mapM hfields)).trans h.key
    refine ⟨⟨d.name, table, fields, valid, hkey⟩, ?_⟩
    rw [ofDeclaration, htable, h.shape]
    show (d.fields.mapM Field.ofDeclaration >>= fun fields => _) = _
    rw [hfields]
    exact dif_pos hkey

end RecordType

/-! ## What becomes of columns -/

/-- The column that a field is to be kept in, unless it is skipped. -/
def FieldDeclaration.column? (f : FieldDeclaration) : Option String :=
  match f.settings with
  | .ok s => if s.isSkipped then none else some s.column
  | .error _ => none

/-- The columns that the fields are to be kept in, one for each field. -/
def Declaration.columns (d : Declaration) : List String := d.fields.filterMap FieldDeclaration.column?

/-- What a record type makes of columns that its declared fields share. -/
structure Collides (σ : String → Type) (d : Declaration) (t : RecordType) : Prop where
  /-- The table has each column as often as there are fields with it. -/
  repeated : ∀ constants, (t.definition constants).columns.map (·.name) = d.columns
  /-- Of fields that share a column the values of a record have the last one's. -/
  last : ∀ (x : t.Record σ) c, (t.fieldValues x).get? c =
    ((Values.scalars t.fields x).reverse.find? fun p => p.1.column = c).map Prod.snd
  /-- A record has as many values as there are different columns, -/
  count : ∀ x : t.Record σ, (t.fieldValues x).keys.length = d.columns.dedup.length
  /-- so each field has its own exactly if no column is shared. -/
  whole : ∀ x : t.Record σ, (t.fieldValues x).keys.length = d.columns.length ↔ d.columns.Nodup

theorem column?_of_declaration {f : FieldDeclaration} {g : Field} (h : Field.ofDeclaration f = .ok g) :
    f.column? = if g.isStored then some g.column else none := by
  obtain ⟨s, hs, hcolumn, -, -, -, hstored, -⟩ := Field.of_declaration h
  rw [FieldDeclaration.column?, hs, hcolumn, hstored]
  cases hskip : s.isSkipped <;> simp [hskip]

theorem length_dedup_eq_iff {α : Type} [DecidableEq α] {xs : List α} : xs.dedup.length = xs.length ↔ xs.Nodup :=
  ⟨fun h => List.dedup_eq_self.1 ((List.dedup_sublist xs).eq_of_length h), fun h => by rw [h.dedup]⟩

namespace RecordType

/-- What is stored is stored where it was declared to be. -/
theorem map_column_stored {d : Declaration} {t : RecordType} (h : ofDeclaration d = .ok t) :
    t.stored.map (·.column) = d.columns := by
  have hfields := forall₂_of_declaration h
  rw [stored, Declaration.columns]
  generalize d.fields = fs, t.fields = gs at hfields
  induction hfields with
  | nil => rfl
  | cons hfirst _ ih =>
    rw [List.filter_cons, List.filterMap_cons, column?_of_declaration hfirst]
    split
    · rw [List.map_cons, ih]
    · exact ih

variable {σ : String → Type} (t : RecordType) (x : t.Record σ)

theorem map_column_scalars :
    ((Values.scalars t.fields x).map fun p => (p.1.column, p.2)).map Prod.fst = t.stored.map (·.column) := by
  rw [stored, ← Values.map_fst_scalars_stored t.fields x, List.map_map, List.map_map]
  rfl

theorem lookup_map_column (ps : List (Field × Scalar)) (c : String) :
    (ps.map fun p => (p.1.column, p.2)).lookup c = (ps.find? fun p => p.1.column = c).map Prod.snd := by
  induction ps with
  | nil => rfl
  | cons p ps ih =>
    rw [List.map_cons, List.lookup_cons, List.find?_cons]
    by_cases hc : p.1.column = c
    · simp [hc]
    · have hne : (c == p.1.column) = false := beq_eq_false_iff_ne.2 (Ne.symm hc)
      simp [hc, hne, ih]

theorem get?_fieldValues (c : String) : (t.fieldValues x).get? c =
    ((Values.scalars t.fields x).reverse.find? fun p => p.1.column = c).map Prod.snd := by
  rw [fieldValues, KeyMap.get?_ofPairs, ← List.map_reverse, lookup_map_column]

theorem length_keys_fieldValues : (t.fieldValues x).keys.length = (t.stored.map (·.column)).dedup.length := by
  rw [fieldValues, KeyMap.length_keys_ofPairs, map_column_scalars]

theorem collides_of_declaration {d : Declaration} {t : RecordType} (h : ofDeclaration d = .ok t) :
    Collides σ d t where
  repeated constants := by
    rw [definition, List.map_map, ← map_column_stored h]
    rfl
  last := t.get?_fieldValues
  count x := by rw [t.length_keys_fieldValues x, map_column_stored h]
  whole x := by rw [t.length_keys_fieldValues x, map_column_stored h, length_dedup_eq_iff]

/--
**What is accepted, and what is lost of it.** A declaration is accepted for what each of its fields is by itself. So two
of the fields may share a column, and exactly then a record of the type has fewer values than it has fields to keep.
-/
theorem accepted_and_lost (σ : String → Type) (d : Declaration) : ((∃ t, ofDeclaration d = .ok t) ↔ d.Acceptable) ∧
    ∀ t, ofDeclaration d = .ok t → Collides σ d t :=
  ⟨exists_ofDeclaration_iff, fun _ => collides_of_declaration⟩

end RecordType

/-! ## A pair that is not one -/

namespace Samples

/-- A pair of which both parts have one column. -/
def pair : Declaration := ⟨"Pair", .namedFields, [tableAttribute "pair"], [
  ⟨"id", "String", [keyAttribute]⟩,
  ⟨"alias", "String", [columnAttribute [("name", some "\"id\"")]]⟩]⟩

theorem exists_ofDeclaration_pair : ∃ t, RecordType.ofDeclaration pair = .ok t := by
  cases ht : RecordType.ofDeclaration pair with
  | ok t => exact ⟨t, rfl⟩
  | error e =>
    have hok : (RecordType.ofDeclaration pair).isOk := by decide +kernel
    rw [ht] at hok
    cases hok

theorem columns_pair : pair.columns = ["id", "id"] := by decide +kernel

/-- A pair has one value for its two fields. -/
theorem lost_pair : pair.Acceptable ∧ ∃ t, RecordType.ofDeclaration pair = .ok t ∧ pair.columns.length = 2 ∧
    ∀ x : t.Record Nat, (t.fieldValues x).keys.length = 1 := by
  obtain ⟨haccepted, hcollides⟩ := RecordType.accepted_and_lost Nat pair
  obtain ⟨t, ht⟩ := exists_ofDeclaration_pair
  refine ⟨haccepted.1 ⟨t, ht⟩, t, ht, by rw [columns_pair]; rfl, fun x => ?_⟩
  rw [(hcollides t ht).count x, columns_pair]
  rfl

/-- Fields of an accepted declaration can share a column. -/
theorem not_nodup_of_declaration : ¬∀ (d : Declaration) (t : RecordType), RecordType.ofDeclaration d = .ok t →
    (t.stored.map (·.column)).Nodup := by
  intro h
  obtain ⟨t, ht⟩ := exists_ofDeclaration_pair
  have hn := h pair t ht
  rw [RecordType.map_column_stored ht, columns_pair] at hn
  exact absurd hn (by decide)

end Samples

end TypedStorage
