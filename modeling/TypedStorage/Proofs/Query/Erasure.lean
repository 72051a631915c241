/-
The text of a query does not depend on its data. A query has scalars in filters, rows and lists of keys; putting other
scalars in their places changes the arguments of what is compiled, each in its place, and not the text
(`Query.compile_map`). Two queries that are equal once every scalar is erased therefore have one text, and as many
arguments.
-/
import TypedStorage.Query.Compile
import TypedStorage.Proofs.KeyMap

namespace TypedStorage

/-! ## Other scalars in the same places -/

namespace KeyMap

variable {α β : Type} (f : α → β) (m : KeyMap α)

def mapValues : KeyMap β where
  entries := m.entries.map fun p => (p.1, f p.2)
  sorted := by
    have h := m.sorted
    unfold SortedKeys at *
    rw [List.map_map]
    exact h

@[simp] theorem keys_mapValues : (m.mapValues f).keys = m.keys := by
  simp [keys, mapValues, Function.comp_def]

@[simp] theorem values_mapValues : (m.mapValues f).values = m.values.map f := by
  simp [values, mapValues, Function.comp_def]

@[simp] theorem isEmpty_mapValues : (m.mapValues f).isEmpty = m.isEmpty := by
  simp [isEmpty, mapValues]

@[simp] theorem get?_mapValues (k : String) : (m.mapValues f).get? k = (m.get? k).map f := by
  show (m.entries.map fun p => (p.1, f p.2)).lookup k = (m.entries.lookup k).map f
  induction m.entries with
  | nil => rfl
  | cons p rest ih =>
    rw [List.map_cons, List.lookup_cons, List.lookup_cons, ih]
    cases k == p.1 <;> rfl

end KeyMap

variable (f : Scalar → Scalar)

def Operand.map : Operand → Operand
  | .single v => .single (f v)
  | .multiple vs => .multiple (vs.map f)

def Filter.map (x : Filter) : Filter := { x with operand := x.operand.map f }

def Action.map : Action → Action
  | .select s => .select { s with filters := s.filters.map (Filter.map f) }
  | .insert values => .insert (values.mapValues f)
  | .insertMany rows => .insertMany (rows.map (KeyMap.mapValues f))
  | .update values filters => .update (values.mapValues f) (filters.map (Filter.map f))
  | .delete filters => .delete (filters.map (Filter.map f))
  | .deleteMany field ids => .deleteMany field (ids.map f)
  | .upsert values conflict refresh => .upsert (values.mapValues f) conflict refresh

def Query.map (q : Query) : Query := { q with action := q.action.map f }

/-- The same text with other arguments. -/
def Compiled.map (c : Compiled) : Compiled := { c with args := c.args.map f }

/-- The action with every scalar taken out of it; what it acts on, and how many scalars it has where, is left. -/
def Action.erased (a : Action) : Action := a.map fun _ => .null

/-! ## What is compiled -/

variable {f}

namespace Clause

theorem filter_map (x : Filter) : filter (x.map f) = (filter x).map f := by
  obtain ⟨field, operator, operand⟩ := x
  cases operator <;> rcases operand with v | _ | ⟨v, vs⟩ <;>
    simp [filter, Filter.map, Operand.map, Compiled.map, Operator.takesSeveral]

theorem whereAll_map (filters : List Filter) : whereAll (filters.map (Filter.map f)) = (whereAll filters).map f := by
  unfold whereAll Compiled.map
  cases filters with
  | nil => rfl
  | cons x filters =>
    simp only [List.isEmpty_cons, List.map_cons, Bool.false_eq_true, if_false, List.map_map, Function.comp_def,
      List.flatMap_map, List.flatMap_cons, List.map_append, List.map_flatMap, filter_map, Compiled.map]

end Clause

theorem columnUnion_map (rows : List ValueMap) : columnUnion (rows.map (KeyMap.mapValues f)) = columnUnion rows := by
  simp only [columnUnion, List.flatMap_map, KeyMap.keys_mapValues]

namespace Compiled

theorem insert_map (table : String) (values : ValueMap) :
    insert table (values.mapValues f) = (insert table values).map f := by
  unfold insert map
  split <;> simp_all

/-- Null stands for what a row lacks, so null has to stay as it is. -/
theorem insertMany_map (hf : f .null = .null) (table : String) (rows : List ValueMap) :
    insertMany table (rows.map (KeyMap.mapValues f)) = (insertMany table rows).map f := by
  have hcell : ∀ (row : ValueMap) (c : String), ((row.get? c).map f).getD .null = f ((row.get? c).getD .null) := by
    intro row c
    cases row.get? c with
    | none => exact hf.symm
    | some v => rfl
  simp only [insertMany, columnUnion_map]
  cases (columnUnion rows).isEmpty with
  | true => rfl
  | false =>
    simp only [Bool.false_eq_true, if_false, map, List.map_map, Function.comp_def, List.flatMap_map, List.map_flatMap,
      KeyMap.get?_mapValues, hcell]

theorem update_map (table : String) (values : ValueMap) (filters : List Filter) :
    update table (values.mapValues f) (filters.map (Filter.map f)) = (update table values filters).map f := by
  unfold update
  rw [KeyMap.isEmpty_mapValues, KeyMap.keys_mapValues, KeyMap.values_mapValues, Clause.whereAll_map]
  cases values.isEmpty with
  | true => rfl
  | false => simp only [Bool.false_eq_true, if_false, map, List.map_append]

theorem delete_map (table : String) (filters : List Filter) :
    delete table (filters.map (Filter.map f)) = (delete table filters).map f := by
  rw [delete, Clause.whereAll_map]
  rfl

theorem upsert_map (table : String) (values : ValueMap) (conflict : List String) (refresh : Option (List String)) :
    upsert table (values.mapValues f) conflict refresh = (upsert table values conflict refresh).map f := by
  have hrefreshed : refreshed (values.mapValues f) conflict refresh = refreshed values conflict refresh := by
    cases refresh with
    | none => rw [refreshed, refreshed, KeyMap.keys_mapValues]
    | some columns => rfl
  unfold upsert
  rw [KeyMap.isEmpty_mapValues, insert_map, hrefreshed]
  cases values.isEmpty with
  | true => rfl
  | false => cases hc : conflict.isEmpty <;> rfl

end Compiled

/-- **Other scalars in the same places leave the text as it is**, and are the arguments instead. -/
theorem Query.compile_map (hf : f .null = .null) (q : Query) : (q.map f).compile = q.compile.map f := by
  obtain ⟨table, action⟩ := q
  cases action with
  | select s =>
    show Compiled.select table _ = _
    rw [Compiled.select, Clause.whereAll_map]
    rfl
  | insert values => exact Compiled.insert_map table values
  | insertMany rows => exact Compiled.insertMany_map hf table rows
  | update values filters => exact Compiled.update_map table values filters
  | delete filters => exact Compiled.delete_map table filters
  | deleteMany field ids => exact Compiled.delete_map table [Filter.inSet field ids]
  | upsert values conflict refresh => exact Compiled.upsert_map table values conflict refresh

/--
**The text of a query is independent of its data**: queries on one table that differ in their scalars only have the
same text, and as many arguments.
-/
theorem Query.sql_eq_of_erased {q q' : Query} (htable : q.table = q'.table) (h : q.action.erased = q'.action.erased) :
    q.compile.sql = q'.compile.sql ∧ q.compile.args.length = q'.compile.args.length := by
  have hmap : q.map (fun _ => .null) = q'.map fun _ => .null := by
    obtain ⟨table, action⟩ := q
    obtain ⟨table', action'⟩ := q'
    exact congrArg₂ Query.mk htable h
  have hcompiled : q.compile.map (fun _ => .null) = q'.compile.map fun _ => .null := by
    rw [← compile_map rfl, ← compile_map rfl, hmap]
  have hsql := congrArg Compiled.sql hcompiled
  have hargs := congrArg (fun c => c.args.length) hcompiled
  simp only [Compiled.map, List.length_map] at hsql hargs
  exact ⟨hsql, hargs⟩

/-- A value that reads like the end of one statement and a second one, and a null, change nothing. -/
theorem Query.sql_eq_of_erased_hostile :
    let query (name : String) (id : Scalar) : Query :=
      ⟨"person", .update (KeyMap.empty.insert "name" (.text name)) [.eq "id" id, ⟨"age", .inSet, .single id⟩]⟩
    let plain := query "Ada" (.integer 1)
    let hostile := query "x' WHERE 1=1; DROP TABLE person; -- ?" .null
    plain.action.erased = hostile.action.erased ∧ plain.compile.sql = hostile.compile.sql ∧
      plain.compile.args.length = hostile.compile.args.length :=
  ⟨rfl, sql_eq_of_erased rfl rfl⟩

end TypedStorage
