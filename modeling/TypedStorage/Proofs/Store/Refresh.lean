/-
Updating and upserting a record refresh the same columns: all that the record has a value for, apart from its key
(`Mapping.refreshesAlike`). The two come to them in different ways. An update takes the key out of the record's values
and sets the columns that are left; an upsert sorts the columns of all values and leaves out those it may conflict in.
-/
import TypedStorage.Proofs.Query.Batch
import TypedStorage.Proofs.Store.Queries

namespace TypedStorage

theorem Clause.join_pair {s t : String} (hs : s ≠ "") (ht : t ≠ "") : join [s, t] = s ++ " " ++ t := by
  rw [join_cons hs]
  simp [spaced, ht, String.append_assoc]

/-- What is refreshed is written out, so that it does not look like doing nothing. -/
theorem Statement.resolution_eq_doNothing_iff {columns : List String} :
    resolution columns = "DO NOTHING" ↔ columns = [] := by
  unfold resolution
  cases columns with
  | nil => simp
  | cons c columns =>
    have hne : ∀ s : String, "DO UPDATE SET " ++ s ≠ "DO NOTHING" := by
      intro s h
      have h := congrArg String.toList h
      simp at h
    simp [hne]

namespace Mapping

open Clause

variable {α : Type} (m : Mapping α) (x : α)

/-- The columns that a record has a value for, apart from its key. -/
def otherColumns : List String := (m.fieldValues x).keys.filter (· != m.keyColumn)

theorem mem_otherColumns {c : String} : c ∈ m.otherColumns x ↔ c ≠ m.keyColumn ∧ c ∈ (m.fieldValues x).keys := by
  simp [otherColumns, and_comm]

theorem sorted_otherColumns :
    (m.otherColumns x).Pairwise fun c d => Text.utf8Bytes c < Text.utf8Bytes d :=
  ((KeyMap.sorted _).imp Text.utf8Bytes_lt).filter _

theorem entries_erase_key : ((m.fieldValues x).erase m.keyColumn).entries =
    (m.otherColumns x).map fun c => (c, (m.fieldValues x).cell c) := by
  rw [ValueMap.entries_eq, KeyMap.keys_erase]
  refine List.map_congr_left fun c hc => ?_
  rw [KeyMap.get?_erase, if_neg ((m.mem_otherColumns x).1 hc).1, KeyMap.cell]

theorem refreshed_key : Compiled.refreshed (m.fieldValues x) [m.keyColumn] none = m.otherColumns x := by
  simp only [Compiled.refreshed, otherColumns, List.contains_cons, List.contains_nil, Bool.or_false]
  rfl

theorem otherColumns_of_keys_eq_nil (h : (m.fieldValues x).keys = []) : m.otherColumns x = [] := by
  rw [otherColumns, h, List.filter_nil]

/-! ## Texts and arguments -/

theorem compile_updateQuery_noop (h : m.otherColumns x = []) : (m.updateQuery x).compile = .noop := by
  have hkeys : ((m.fieldValues x).erase m.keyColumn).keys = [] := (KeyMap.keys_erase _ _).trans h
  exact if_pos (KeyMap.isEmpty_iff.2 hkeys)

theorem whereAll_hasKey (key : Scalar) : whereAll [m.hasKey key] = ⟨"WHERE " ++ m.keyColumn ++ " = ?", [key]⟩ := by
  have hmark : " " ++ Operator.equals.sql ++ " ?" = " = ?" := by decide
  simp [whereAll, Clause.filter, hasKey, Filter.eq, Operator.takesSeveral, String.append_assoc, ← hmark]

theorem compile_updateQuery (h : m.otherColumns x ≠ []) : (m.updateQuery x).compile =
    ⟨"UPDATE " ++ m.table ++ " SET " ++ commas ((m.otherColumns x).map (· ++ " = ?")) ++
      " WHERE " ++ m.keyColumn ++ " = ?", (m.otherColumns x).map (m.fieldValues x).cell ++ [m.keyValue x]⟩ := by
  have hkeys : ((m.fieldValues x).erase m.keyColumn).keys ≠ [] := by rwa [KeyMap.keys_erase]
  have hempty := KeyMap.isEmpty_eq_false_iff.2 hkeys
  have hspace : " WHERE " = " " ++ "WHERE " := by decide
  simp only [updateQuery, Query.compile, Compiled.update, hempty, Bool.false_eq_true, if_false, KeyMap.keys,
    KeyMap.values, entries_erase_key, List.map_map, Function.comp_def, whereAll_hasKey]
  rw [join_pair (by simp) (by simp), hspace]
  simp only [String.append_assoc]

theorem compile_insertQuery (h : (m.fieldValues x).keys ≠ []) : (m.insertQuery x).compile =
    ⟨"INSERT INTO " ++ m.table ++ " (" ++ commas (m.fieldValues x).keys ++ ") VALUES (" ++
      placeholders (m.fieldValues x).keys.length ++ ")", (m.fieldValues x).keys.map (m.fieldValues x).cell⟩ := by
  have hvalues : (m.fieldValues x).keys.map (m.fieldValues x).cell = (m.fieldValues x).values := ValueMap.rowIn_keys _
  rw [hvalues]
  exact if_neg fun he => h (KeyMap.isEmpty_iff.1 he)

theorem compile_upsertQuery (h : (m.fieldValues x).keys ≠ []) : (m.upsertQuery x).compile =
    ⟨(m.insertQuery x).compile.sql ++ " ON CONFLICT (" ++ m.keyColumn ++ ") " ++ Statement.resolution (m.otherColumns x),
      (m.insertQuery x).compile.args⟩ := by
  have hempty := KeyMap.isEmpty_eq_false_iff.2 h
  simp only [upsertQuery, insertQuery, Query.compile, Compiled.upsert, hempty, Bool.false_eq_true, if_false,
    refreshed_key, List.isEmpty_cons, commas, String.intercalate_singleton, Statement.resolution]

theorem compile_upsertQuery_noop (h : (m.fieldValues x).keys = []) : (m.upsertQuery x).compile = .noop :=
  if_pos (KeyMap.isEmpty_iff.2 h)

/-- The upsert that leaves the row alone that it conflicts with. -/
def doingNothing : Compiled :=
  ⟨(m.insertQuery x).compile.sql ++ " ON CONFLICT (" ++ m.keyColumn ++ ") DO NOTHING", (m.insertQuery x).compile.args⟩

theorem compile_updateQuery_eq_noop_iff : (m.updateQuery x).compile = .noop ↔ m.otherColumns x = [] := by
  refine ⟨fun h => by_contra fun hne => ?_, m.compile_updateQuery_noop x⟩
  rw [compile_updateQuery m x hne] at h
  have hsql := congrArg Compiled.sql h
  simp [Compiled.noop] at hsql

theorem compile_upsertQuery_idle_iff :
    (m.upsertQuery x).compile = .noop ∨ (m.upsertQuery x).compile = m.doingNothing x ↔ m.otherColumns x = [] := by
  by_cases hkeys : (m.fieldValues x).keys = []
  · simp [compile_upsertQuery_noop m x hkeys, otherColumns_of_keys_eq_nil m x hkeys]
  · have hnoop : (m.upsertQuery x).compile ≠ .noop := by
      intro h
      rw [compile_upsertQuery m x hkeys] at h
      have hsql := congrArg Compiled.sql h
      simp [Compiled.noop] at hsql
    have hnothing : ") DO NOTHING" = ") " ++ "DO NOTHING" := by decide
    rw [or_iff_right hnoop, compile_upsertQuery m x hkeys, doingNothing, ← Statement.resolution_eq_doNothing_iff, hnothing,
      ← String.append_assoc, Compiled.mk.injEq, String.append_right_inj]
    exact and_iff_left rfl

/-- The row that an upsert refreshes is the row that an update leaves. -/
theorem assigned_eq_refreshed (row : Sql.Row) :
    Sql.assigned ((m.otherColumns x).map fun c => (c, (m.fieldValues x).cell c)) row =
      Sql.refreshed (m.otherColumns x)
        (Sql.newRow (m.fieldValues x).keys ((m.fieldValues x).keys.map (m.fieldValues x).cell)) row := by
  have hnew : Sql.newRow (m.fieldValues x).keys ((m.fieldValues x).keys.map (m.fieldValues x).cell) =
      fun c => .ofScalar ((m.fieldValues x).cell c) := Sql.newRow_rowIn fun _ hc => hc
  funext c
  rw [← entries_erase_key, Sql.assigned_entries, KeyMap.get?_erase, hnew, Sql.refreshed]
  simp only [mem_otherColumns, KeyMap.mem_keys_iff, KeyMap.cell]
  by_cases hkey : c = m.keyColumn
  · simp [hkey]
  · cases hv : (m.fieldValues x).get? c <;> simp [hkey]

/-! ## All of it -/

/-- Updating a record and upserting it refresh these columns. -/
structure RefreshesAlike (columns : List String) : Prop where
  /-- They are those of the record's values but its key, in the order of their bytes. -/
  mem_columns : ∀ c, c ∈ columns ↔ c ≠ m.keyColumn ∧ c ∈ (m.fieldValues x).keys
  sorted : columns.Pairwise fun c d => Text.utf8Bytes c < Text.utf8Bytes d
  /-- An update sets each of them to the record's value, and then looks for the record's key. -/
  update : columns ≠ [] → (m.updateQuery x).compile =
    ⟨"UPDATE " ++ m.table ++ " SET " ++ commas (columns.map (· ++ " = ?")) ++ " WHERE " ++ m.keyColumn ++ " = ?",
      columns.map (m.fieldValues x).cell ++ [m.keyValue x]⟩
  /-- An upsert inserts all values, and on a conflict refreshes each of the columns with the value inserted there. -/
  upsert : columns ≠ [] → (m.upsertQuery x).compile =
    ⟨"INSERT INTO " ++ m.table ++ " (" ++ commas (m.fieldValues x).keys ++ ") VALUES (" ++
        placeholders (m.fieldValues x).keys.length ++ ")" ++ " ON CONFLICT (" ++ m.keyColumn ++ ") " ++
        ("DO UPDATE SET " ++ commas (columns.map fun c => c ++ " = excluded." ++ c)),
      (m.fieldValues x).keys.map (m.fieldValues x).cell⟩
  row : ∀ row, Sql.assigned (columns.map fun c => (c, (m.fieldValues x).cell c)) row =
    Sql.refreshed columns (Sql.newRow (m.fieldValues x).keys ((m.fieldValues x).keys.map (m.fieldValues x).cell)) row
  /-- Where there is no such column, neither changes a row that is there. -/
  noop : (m.updateQuery x).compile = .noop ↔ columns = []
  noop_iff : (m.updateQuery x).compile = .noop ↔
    (m.upsertQuery x).compile = .noop ∨ (m.upsertQuery x).compile = m.doingNothing x

/-- **Updating and upserting a record refresh the same columns**, with the same values. -/
theorem refreshesAlike : m.RefreshesAlike x (m.otherColumns x) where
  mem_columns _ := m.mem_otherColumns x
  sorted := m.sorted_otherColumns x
  update := m.compile_updateQuery x
  upsert h := by
    have hkeys : (m.fieldValues x).keys ≠ [] := fun hnil => h (m.otherColumns_of_keys_eq_nil x hnil)
    rw [compile_upsertQuery m x hkeys, compile_insertQuery m x hkeys, Statement.resolution, if_neg (by simpa using h)]
  row := m.assigned_eq_refreshed x
  noop := m.compile_updateQuery_eq_noop_iff x
  noop_iff := (m.compile_updateQuery_eq_noop_iff x).trans (m.compile_upsertQuery_idle_iff x).symm

end Mapping

end TypedStorage
