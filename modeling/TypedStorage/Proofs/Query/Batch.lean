/-
Rows that are inserted together. They are a rectangle: the columns are those that any of them has, and each row fills
all of them, with null where it has nothing to say (`Query.compile_batch`). So the order of the rows is only the order of
their groups of arguments, and a null may as well be written out. Rows without any column insert nothing.
-/
import Mathlib.Data.List.FinRange
import Mathlib.Data.List.Sort
import TypedStorage.Proofs.Query.Placeholders
import TypedStorage.Proofs.Text.Order

namespace TypedStorage

/-! ## Columns -/

/-- All that matters to the union is which columns there are. -/
theorem columnUnion_congr {rows rows' : List ValueMap}
    (h : ∀ c, c ∈ rows.flatMap KeyMap.keys ↔ c ∈ rows'.flatMap KeyMap.keys) : columnUnion rows = columnUnion rows' := by
  refine (sorted_columnUnion rows).eq_of_mem_iff (sorted_columnUnion rows') fun c => ?_
  rw [mem_columnUnion, mem_columnUnion, h]

theorem columnUnion_perm {rows rows' : List ValueMap} (h : rows.Perm rows') : columnUnion rows = columnUnion rows' :=
  columnUnion_congr fun _ => (h.flatMap_right KeyMap.keys).mem_iff

theorem sorted_bytes_columnUnion (rows : List ValueMap) :
    (columnUnion rows).Pairwise fun c d => Text.utf8Bytes c < Text.utf8Bytes d :=
  (sorted_columnUnion rows).imp Text.utf8Bytes_lt

/-- A column that some row has may be added to any row. -/
theorem columnUnion_set_insert {rows : List ValueMap} {i : Nat} (hi : i < rows.length) {c : String}
    (hc : c ∈ columnUnion rows) (v : Scalar) : columnUnion (rows.set i (rows[i].insert c v)) = columnUnion rows := by
  refine columnUnion_congr fun d => ?_
  simp only [List.mem_flatMap]
  constructor
  · rintro ⟨row, hrow, hd⟩
    rcases List.mem_or_eq_of_mem_set hrow with hrow | rfl
    · exact ⟨row, hrow, hd⟩
    · rcases KeyMap.mem_keys_insert.1 hd with rfl | hd
      · exact List.mem_flatMap.1 (mem_columnUnion.1 hc)
      · exact ⟨rows[i], List.getElem_mem hi, hd⟩
  · rintro ⟨row, hrow, hd⟩
    obtain ⟨k, hk, rfl⟩ := List.getElem_of_mem hrow
    by_cases he : i = k
    · subst he
      exact ⟨_, List.mem_set hi _, KeyMap.mem_keys_insert.2 (.inr hd)⟩
    · exact ⟨rows[k], List.mem_iff_getElem.2 ⟨k, by simpa using hk, by rw [List.getElem_set_ne he]⟩, hd⟩

namespace ValueMap

theorem length_rowIn (row : ValueMap) (columns : List String) : (row.rowIn columns).length = columns.length :=
  List.length_map _

/-- A null that is written out is the null that fills the column otherwise. -/
theorem rowIn_insert_null {row : ValueMap} {c : String} (h : row.get? c = none) (columns : List String) :
    rowIn (row.insert c .null) columns = row.rowIn columns := by
  refine List.map_congr_left fun d _ => ?_
  rw [KeyMap.get?_insert]
  split
  · next hd => rw [hd, h]; rfl
  · rfl

end ValueMap

/-! ## Groups of arguments -/

/-- Of lists of one length, put side by side, each is found by its place. -/
theorem take_drop_flatMap {α β : Type} {f : α → List β} {width : Nat} (h : ∀ x, (f x).length = width) {xs : List α}
    {i : Nat} (hi : i < xs.length) : ((xs.flatMap f).drop (i * width)).take width = f xs[i] := by
  induction xs generalizing i with
  | nil => cases hi
  | cons x xs ih =>
    rw [List.flatMap_cons]
    cases i with
    | zero => simpa using List.take_left' (h x)
    | succ i =>
      rw [Nat.succ_mul, Nat.add_comm, ← List.drop_drop, List.drop_left' (h x), ih (Nat.lt_of_succ_lt_succ hi)]
      rfl

namespace Compiled

theorem eq_of_sql_of_args {c d : Compiled} (hsql : c.sql = d.sql) (hargs : c.args = d.args) : c = d := by
  cases c
  cases d
  cases hsql
  cases hargs
  rfl

/-- One of the groups of this many arguments. -/
def argGroup (c : Compiled) (width i : Nat) : List Scalar := (c.args.drop (i * width)).take width

theorem args_insertMany (table : String) (rows : List ValueMap) :
    (insertMany table rows).args = rows.flatMap (ValueMap.rowIn · (columnUnion rows)) := by
  unfold insertMany
  dsimp only
  split
  · next h => simp [noop, ValueMap.rowIn, List.isEmpty_iff.1 h]
  · rfl

theorem sql_insertMany (table : String) {rows : List ValueMap} (h : columnUnion rows ≠ []) : (insertMany table rows).sql =
    "INSERT INTO " ++ table ++ " (" ++ Clause.commas (columnUnion rows) ++ ") VALUES " ++
      Clause.commas (List.replicate rows.length ("(" ++ Clause.placeholders (columnUnion rows).length ++ ")")) := by
  unfold insertMany
  rw [if_neg (by rwa [List.isEmpty_iff])]
  dsimp only
  rw [List.map_const']

theorem insertMany_eq_noop (table : String) {rows : List ValueMap} (h : columnUnion rows = []) :
    insertMany table rows = noop := by
  unfold insertMany
  rw [if_pos (List.isEmpty_iff.2 h)]

theorem length_args_insertMany (table : String) (rows : List ValueMap) :
    (insertMany table rows).args.length = rows.length * (columnUnion rows).length := by
  simp [args_insertMany, List.length_flatMap, ValueMap.length_rowIn]

theorem argGroup_insertMany (table : String) {rows : List ValueMap} {i : Nat} (hi : i < rows.length) :
    (insertMany table rows).argGroup (columnUnion rows).length i = rows[i].rowIn (columnUnion rows) := by
  rw [argGroup, args_insertMany]
  exact take_drop_flatMap (fun row => row.length_rowIn _) hi

theorem getElem?_args_insertMany (table : String) {rows : List ValueMap} {i j : Nat} (hi : i < rows.length)
    (hj : j < (columnUnion rows).length) : (insertMany table rows).args[i * (columnUnion rows).length + j]? =
      some ((rows[i].get? (columnUnion rows)[j]).getD .null) := by
  have h := congrArg (·[j]?) (argGroup_insertMany table hi)
  simpa [argGroup, hj, ValueMap.rowIn] using h

/-- What is compiled depends on the columns, on how many rows there are, and on what they have in the columns. -/
theorem insertMany_congr (table : String) {rows rows' : List ValueMap} (hc : columnUnion rows = columnUnion rows')
    (h : rows.map (ValueMap.rowIn · (columnUnion rows)) = rows'.map (ValueMap.rowIn · (columnUnion rows))) :
    insertMany table rows = insertMany table rows' := by
  have hargs : (insertMany table rows).args = (insertMany table rows').args := by
    rw [args_insertMany, args_insertMany, List.flatMap_def, List.flatMap_def, h, hc]
  have hlength : rows.length = rows'.length := by simpa using congrArg List.length h
  by_cases hn : columnUnion rows = []
  · rw [insertMany_eq_noop table hn, insertMany_eq_noop table (hc ▸ hn)]
  · have hsql : (insertMany table rows).sql = (insertMany table rows').sql := by
      rw [sql_insertMany table hn, sql_insertMany table (hc ▸ hn), hc, hlength]
    exact eq_of_sql_of_args hsql hargs

theorem insertMany_permute (table : String) {rows : List ValueMap} (σ : Equiv.Perm (Fin rows.length)) :
    let permuted := insertMany table (List.ofFn fun i => rows[σ i])
    permuted.sql = (insertMany table rows).sql ∧ ∀ i : Fin rows.length,
      permuted.argGroup (columnUnion rows).length i = (insertMany table rows).argGroup (columnUnion rows).length (σ i) := by
  intro permuted
  have hperm : (List.ofFn fun i => rows[σ i]).Perm rows := by
    have h := σ.ofFn_comp_perm fun i => rows[i]
    rwa [show List.ofFn (fun i : Fin rows.length => rows[i]) = rows from List.ofFn_getElem] at h
  have hcolumns := columnUnion_perm hperm
  constructor
  · by_cases hn : columnUnion rows = []
    · rw [insertMany_eq_noop table hn, show permuted = noop from insertMany_eq_noop table (hcolumns.trans hn)]
    · rw [sql_insertMany table hn, show permuted.sql = _ from sql_insertMany table (hcolumns ▸ hn), hcolumns,
        hperm.length_eq]
  · intro i
    have hi : (i : Nat) < (List.ofFn fun i => rows[σ i]).length := by simp
    have h := argGroup_insertMany table hi
    rw [hcolumns] at h
    rw [show permuted.argGroup _ i = _ from h, argGroup_insertMany table (σ i).isLt, List.getElem_ofFn]
    rfl

theorem insertMany_insert_null (table : String) {rows : List ValueMap} {i : Nat} {c : String} (hi : i < rows.length)
    (hc : c ∈ columnUnion rows) (hnone : rows[i].get? c = none) :
    insertMany table (rows.set i (rows[i].insert c .null)) = insertMany table rows := by
  have hcolumns := columnUnion_set_insert hi hc .null
  refine insertMany_congr table hcolumns ?_
  have hi' : i < (rows.map (ValueMap.rowIn · (columnUnion rows))).length := by simpa using hi
  have hself := List.set_getElem_self hi'
  rw [List.getElem_map] at hself
  rw [hcolumns, List.map_set, ValueMap.rowIn_insert_null hnone, hself]

/-- A batch of one row that has columns is that row. -/
theorem insertMany_singleton (table : String) {values : ValueMap} (h : values.isEmpty = false) :
    insertMany table [values] = insert table values := by
  have hcolumns := columnUnion_singleton values
  have hne : columnUnion [values] ≠ [] := hcolumns ▸ KeyMap.isEmpty_eq_false_iff.1 h
  have hsql : (insertMany table [values]).sql = (insert table values).sql := by
    rw [sql_insertMany table hne, hcolumns, insert_eq table h]
    simp [Statement.insertSql_eq, Statement.group, length_keys]
  have hargs : (insertMany table [values]).args = (insert table values).args := by
    rw [args_insertMany, hcolumns, insert_eq table h, List.flatMap_singleton, ValueMap.rowIn_keys]
  exact eq_of_sql_of_args hsql hargs

/-! ## All of it -/

/-- Rows that are inserted together into these columns. -/
structure Batch (table : String) (rows : List ValueMap) (columns : List String) : Prop where
  /-- The columns are those of the rows, in the order of their bytes. -/
  mem_columns : ∀ c, c ∈ columns ↔ ∃ row ∈ rows, c ∈ row.keys
  sorted : columns.Pairwise fun c d => Text.utf8Bytes c < Text.utf8Bytes d
  /-- For each row there is a group with a mark for each column, -/
  sql : columns ≠ [] → (insertMany table rows).sql =
    "INSERT INTO " ++ table ++ " (" ++ Clause.commas columns ++ ") VALUES " ++
      Clause.commas (List.replicate rows.length ("(" ++ Clause.placeholders columns.length ++ ")"))
  /-- unless there is no column at all. -/
  noop : columns = [] → insertMany table rows = .noop
  /-- The arguments are what the rows have in the columns, row by row. -/
  length_args : (insertMany table rows).args.length = rows.length * columns.length
  args : ∀ i j (hi : i < rows.length) (hj : j < columns.length),
    (insertMany table rows).args[i * columns.length + j]? = some ((rows[i].get? columns[j]).getD .null)
  /-- Rows in another order have the same text, and their groups of arguments in that order. -/
  permute : ∀ σ : Equiv.Perm (Fin rows.length),
    let permuted := insertMany table (List.ofFn fun i => rows[σ i])
    permuted.sql = (insertMany table rows).sql ∧
      ∀ i : Fin rows.length, permuted.argGroup columns.length i = (insertMany table rows).argGroup columns.length (σ i)
  /-- A null that is written out changes nothing. -/
  null : ∀ i c (hi : i < rows.length), c ∈ columns → rows[i].get? c = none →
    insertMany table (rows.set i (rows[i].insert c .null)) = insertMany table rows

end Compiled

open Compiled in
/-- **A batch of rows is a rectangle**, and a batch of one row that has columns is that row. -/
theorem Query.compile_batch (table : String) :
    (∀ rows, (mk table (.insertMany rows)).compile = insertMany table rows ∧ Batch table rows (columnUnion rows)) ∧
      ∀ values : ValueMap, values.isEmpty = false →
        (mk table (.insertMany [values])).compile = (mk table (.insert values)).compile := by
  refine ⟨fun rows => ⟨rfl, ?_⟩, fun values => insertMany_singleton table⟩
  exact {
    mem_columns := fun c => mem_columnUnion.trans List.mem_flatMap
    sorted := sorted_bytes_columnUnion rows
    sql := sql_insertMany table
    noop := insertMany_eq_noop table
    length_args := length_args_insertMany table rows
    args := fun i j => getElem?_args_insertMany table
    permute := insertMany_permute table
    null := fun i c => insertMany_insert_null table }

/-- One row without columns has no group of marks, not even an empty one: there is no text at all. -/
theorem Query.compile_batch_rowWithoutColumns :
    ¬∀ (table : String) (rows : List ValueMap), ∃ start, (mk table (.insertMany rows)).compile.sql = start ++
      Clause.commas (List.replicate rows.length ("(" ++ Clause.placeholders (columnUnion rows).length ++ ")")) := by
  intro h
  obtain ⟨start, hstart⟩ := h "t" [.empty]
  have hgroup : Clause.commas (List.replicate 1 ("(" ++ Clause.placeholders 0 ++ ")")) = "()" := by decide
  have hnone : "" = start ++ "()" := hgroup ▸ hstart
  have hlength : 0 = start.length + "()".length := by rw [← String.length_append, ← hnone]; rfl
  exact absurd hlength (Nat.ne_of_lt (Nat.add_pos_right _ (by decide)))

end TypedStorage
