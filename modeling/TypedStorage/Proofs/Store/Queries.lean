/-
The queries of a record type, as statements. All their names are valid, as the type's own names are
(`namesValid`), so each is read as its statement; each writes rows that have every column of the table once
(`isRegular_insert` and the others).
-/
import TypedStorage.Proofs.Query.Template
import TypedStorage.Proofs.Query.Unambiguous
import TypedStorage.Proofs.Store.Rows

namespace TypedStorage

theorem KeyMap.isEmpty_eq_false {α : Type} {m : KeyMap α} {k : String} (h : k ∈ m.keys) : m.isEmpty = false :=
  isEmpty_eq_false_iff.2 (List.ne_nil_of_mem h)

theorem Query.isNoop_eq_false {q : Query} (h : q.statement ≠ .noop) : q.compile.isNoop = false :=
  Bool.eq_false_iff.2 fun hn => h (q.isNoop_compile.1 hn)

namespace RecordType

variable {σ : String → Type} {t : RecordType} {constants : Expression → Scalar}

/-- A query with no names but the type's own. -/
theorem namesValid {a : Action} (h : ∀ n ∈ (⟨t.table, a⟩ : Query).names.tail, n ∈ t.stored.map (·.column)) :
    (⟨t.table, a⟩ : Query).NamesValid := by
  intro n hn
  rw [Identifier.isValid]
  rcases List.mem_cons.1 hn with rfl | hn
  · rw [t.table_valid]
    rfl
  · obtain ⟨f, hf, rfl⟩ := List.mem_map.1 (h n hn)
    rw [f.valid_of_stored (List.mem_filter.1 hf).2]
    rfl

theorem key_mem_columns : t.key.column ∈ t.stored.map (·.column) := List.mem_map_of_mem key_mem_stored

/-- A query that names the key only. -/
theorem namesValid_keyed {a : Action} (ha : (⟨t.table, a⟩ : Query).names.tail = [t.key.column]) :
    (⟨t.table, a⟩ : Query).NamesValid := by
  refine namesValid fun n hn => ?_
  rw [ha] at hn
  obtain rfl := List.mem_singleton.1 hn
  exact key_mem_columns

variable (h : (t.stored.map (·.column)).Nodup)

include h

theorem isEmpty_fieldValues (x : t.Record σ) : (t.fieldValues x).isEmpty = false :=
  KeyMap.isEmpty_eq_false ((mem_keys_fieldValues h x).2 key_mem_columns)

/-! ## Names -/

theorem namesValid_insertQuery (x : t.Record σ) : (t.mapping.insertQuery x).NamesValid :=
  namesValid fun _ hn => (mem_keys_fieldValues h x).1 hn

theorem namesValid_insertManyQuery (xs : List (t.Record σ)) : (t.mapping.insertManyQuery xs).NamesValid := by
  refine namesValid fun n hn => ?_
  obtain ⟨_, hv, hn⟩ := List.mem_flatMap.1 hn
  obtain ⟨x, -, rfl⟩ := List.mem_map.1 hv
  exact (mem_keys_fieldValues h x).1 hn

theorem namesValid_updateQuery (x : t.Record σ) : (t.mapping.updateQuery x).NamesValid := by
  refine namesValid fun n hn => ?_
  rcases List.mem_append.1 hn with hn | hn
  · exact (mem_keys_fieldValues h x).1 (KeyMap.mem_keys_erase.1 hn).2
  · obtain rfl := List.mem_singleton.1 hn
    exact key_mem_columns

theorem namesValid_upsertQuery (x : t.Record σ) : (t.mapping.upsertQuery x).NamesValid := by
  refine namesValid fun n hn => ?_
  rcases List.mem_append.1 hn with hn | hn
  · exact (mem_keys_fieldValues h x).1 hn
  · obtain rfl := List.mem_singleton.1 hn
    exact key_mem_columns

/-! ## Statements -/

theorem statement_insertQuery (x : t.Record σ) : (t.mapping.insertQuery x).statement
    = .insert t.table (t.fieldValues x).keys (([x].map t.fieldValues).map (ValueMap.rowIn · (t.fieldValues x).keys)) := by
  simp only [Mapping.insertQuery, mapping, Query.statement, isEmpty_fieldValues h, Bool.false_eq_true, if_false,
    List.map_cons, List.map_nil, ValueMap.rowIn_keys]

/-- The columns of some records are the columns of the type. -/
theorem mem_columnUnion_fieldValues {xs : List (t.Record σ)} (hxs : xs ≠ []) (c : String) :
    c ∈ columnUnion (xs.map t.fieldValues) ↔ c ∈ t.stored.map (·.column) := by
  rw [mem_columnUnion, List.mem_flatMap]
  constructor
  · rintro ⟨_, hv, hc⟩
    obtain ⟨x, -, rfl⟩ := List.mem_map.1 hv
    exact (mem_keys_fieldValues h x).1 hc
  · intro hc
    obtain ⟨x, hx⟩ := List.exists_mem_of_ne_nil xs hxs
    exact ⟨_, List.mem_map_of_mem hx, (mem_keys_fieldValues h x).2 hc⟩

theorem statement_insertManyQuery {xs : List (t.Record σ)} (hxs : xs ≠ []) : (t.mapping.insertManyQuery xs).statement
    = .insert t.table (columnUnion (xs.map t.fieldValues))
        ((xs.map t.fieldValues).map (ValueMap.rowIn · (columnUnion (xs.map t.fieldValues)))) := by
  have hne : (columnUnion (xs.map t.fieldValues)).isEmpty = false :=
    List.isEmpty_eq_false_iff.2 (List.ne_nil_of_mem ((mem_columnUnion_fieldValues h hxs _).2 key_mem_columns))
  simp only [Mapping.insertManyQuery, mapping, Query.statement, hne, Bool.false_eq_true, if_false]

theorem statement_upsertQuery (x : t.Record σ) : (t.mapping.upsertQuery x).statement
    = .upsert t.table (t.fieldValues x).keys (t.fieldValues x).values [t.key.column]
        (Compiled.refreshed (t.fieldValues x) [t.key.column] none) := by
  simp only [Mapping.upsertQuery, mapping, Query.statement, isEmpty_fieldValues h, Bool.false_eq_true, if_false,
    List.isEmpty_cons]

omit h in
theorem Mappable.statement_updateQuery (hm : t.Mappable) (x : t.Record σ) : (t.mapping.updateQuery x).statement
    = .update t.table ((t.fieldValues x).erase t.key.column).entries
        [(Filter.eq t.key.column (t.keyOf x).scalar).condition] := by
  obtain ⟨c, hc⟩ := List.exists_mem_of_ne_nil _ (hm.refreshed_ne_nil x)
  obtain ⟨hmem, hne⟩ := List.mem_filter.1 hc
  have hkeys : c ∈ ((t.fieldValues x).erase t.key.column).keys := KeyMap.mem_keys_erase.2 ⟨by simpa using hne, hmem⟩
  simp only [Mapping.updateQuery, Mapping.hasKey, mapping, Query.statement, KeyMap.isEmpty_eq_false hkeys,
    Bool.false_eq_true, if_false, (hm.keyOf_spec x).2, List.map_cons, List.map_nil]

/-! ## Written columns -/

omit h in
theorem isRegular_insert {columns : List String} (hn : columns.Nodup) (hc : ∀ c, c ∈ columns ↔ c ∈ t.stored.map (·.column))
    (rows : List ValueMap) (name : String) :
    Sql.IsRegular (t.sqlTable constants) (.insert name columns (rows.map (ValueMap.rowIn · columns))) := by
  refine ⟨hn, fun c => ?_, fun row hrow => ?_⟩
  · rw [sqlTable, columns_definition]
    exact hc c
  · obtain ⟨values, -, rfl⟩ := List.mem_map.1 hrow
    rw [ValueMap.rowIn, List.length_map]

theorem isRegular_update (x : t.Record σ) (conditions : List Condition) (name : String) :
    Sql.IsRegular (t.sqlTable constants) (.update name ((t.fieldValues x).erase t.key.column).entries conditions) := by
  refine ⟨((t.fieldValues x).erase t.key.column).nodup_keys, fun p hp => ?_⟩
  rw [sqlTable, columns_definition]
  exact (mem_keys_fieldValues h x).1 (KeyMap.mem_keys_erase.1 (List.mem_map_of_mem hp)).2

theorem isRegular_upsert (x : t.Record σ) (conflict : List String) (name : String) :
    Sql.IsRegular (t.sqlTable constants) (.upsert name (t.fieldValues x).keys (t.fieldValues x).values conflict
      (Compiled.refreshed (t.fieldValues x) conflict none)) := by
  refine ⟨(t.fieldValues x).nodup_keys, fun c => ?_, (length_keys _).symm, fun c hc => ?_⟩
  · rw [sqlTable, columns_definition]
    exact mem_keys_fieldValues h x
  · rw [sqlTable, columns_definition]
    exact (mem_keys_fieldValues h x).1 (List.mem_filter.1 hc).1

end RecordType

end TypedStorage
