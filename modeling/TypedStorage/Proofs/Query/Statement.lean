/-
What the query compiler says, apart from how it says it. `Query.statement` is the meaning of a query: queries that
ask for the same thing have one statement, whichever action they were built as. `Query.compile_eq` is the direction
that needs no care: the text and the arguments depend on the statement only.
-/
import TypedStorage.Proofs.KeyMap
import TypedStorage.Query.Compile

namespace TypedStorage

/-- The operators that compare with one value. -/
inductive Comparison where
  | equals | notEquals | like | greaterThan | lessThan
  deriving DecidableEq

namespace Comparison

def all : List Comparison := [.equals, .notEquals, .like, .greaterThan, .lessThan]

def sql : Comparison → String
  | .equals => "="
  | .notEquals => "!="
  | .like => "LIKE"
  | .greaterThan => ">"
  | .lessThan => "<"

end Comparison

/-- An operator that compares with one value; membership does not. -/
def Operator.comparison? : Operator → Option Comparison
  | .equals => some .equals
  | .notEquals => some .notEquals
  | .like => some .like
  | .greaterThan => some .greaterThan
  | .lessThan => some .lessThan
  | .inSet => none

/-- What a filter asks of a row. -/
inductive Condition where
  | never
  | compare (field : String) (op : Comparison) (v : Scalar)
  | among (field : String) (vs : List Scalar)

/-- Membership in nothing, and an operator that does not fit its operand, hold of no row; the field is forgotten. -/
def Filter.condition (f : Filter) : Condition :=
  match f.operator.comparison?, f.operand with
  | some op, .single v => .compare f.field op v
  | none, .multiple (v :: vs) => .among f.field (v :: vs)
  | _, _ => .never

/-- What is asked of the engine. -/
inductive Statement where
  | noop
  | select (table : String) (fields : List String) (conditions : List Condition) (sort : List SortKey)
    (limit offset : Option UInt64)
  | insertDefaults (table : String)
  | insert (table : String) (columns : List String) (rows : List (List Scalar))
  | update (table : String) (assignments : List (String × Scalar)) (conditions : List Condition)
  | delete (table : String) (conditions : List Condition)
  /-- Without a conflict list any conflict is ignored, and there is nothing to refresh. -/
  | upsert (table : String) (columns : List String) (values : List Scalar) (conflict refresh : List String)

/-- A row's values in these columns; null in a column that it lacks. -/
def ValueMap.rowIn (row : ValueMap) (columns : List String) : List Scalar :=
  columns.map fun c => (row.get? c).getD .null

/-- The values of a map are what it has in its own columns. -/
theorem ValueMap.rowIn_keys (values : ValueMap) : values.rowIn values.keys = values.values := by
  rw [ValueMap.rowIn, KeyMap.keys, KeyMap.values, List.map_map]
  refine List.map_congr_left fun p hp => ?_
  have : values.get? p.1 = some p.2 := KeyMap.get?_eq_some_iff.2 hp
  simp only [Function.comp_apply, this, Option.getD_some]

/-- The entries of a map are its names with what it answers to them. -/
theorem ValueMap.entries_eq (values : ValueMap) :
    values.entries = values.keys.map fun c => (c, (values.get? c).getD .null) := by
  rw [KeyMap.keys, List.map_map]
  refine ((List.map_congr_left fun p hp => ?_).trans (List.map_id _)).symm
  have : values.get? p.1 = some p.2 := KeyMap.get?_eq_some_iff.2 hp
  simp [this]

/-- The meaning of a query. -/
def Query.statement (q : Query) : Statement :=
  match q.action with
  | .select s =>
    .select q.table (if s.fields.isEmpty then ["*"] else s.fields) (s.filters.map Filter.condition) s.sort s.limit s.offset
  | .insert values => if values.isEmpty then .insertDefaults q.table else .insert q.table values.keys [values.values]
  | .insertMany rows =>
    let columns := columnUnion rows
    if columns.isEmpty then .noop else .insert q.table columns (rows.map (ValueMap.rowIn · columns))
  | .update values filters =>
    if values.isEmpty then .noop else .update q.table values.entries (filters.map Filter.condition)
  | .delete filters => .delete q.table (filters.map Filter.condition)
  | .deleteMany field ids => .delete q.table [(Filter.inSet field ids).condition]
  | .upsert values conflict refresh =>
    if values.isEmpty then .noop
    else .upsert q.table values.keys values.values conflict
      (if conflict.isEmpty then [] else Compiled.refreshed values conflict refresh)

/-! ## The text of a statement -/

namespace Condition

def compiled : Condition → Compiled
  | .never => ⟨Clause.never, []⟩
  | .compare field op v => ⟨field ++ " " ++ op.sql ++ " ?", [v]⟩
  | .among field vs => ⟨field ++ " IN (" ++ Clause.placeholders vs.length ++ ")", vs⟩

/-- All conditions at once, with the word that starts them; nothing if there are none. -/
def whereAll (conditions : List Condition) : Compiled :=
  if conditions.isEmpty then ⟨"", []⟩
  else ⟨"WHERE " ++ " AND ".intercalate (conditions.map fun c => c.compiled.sql),
    conditions.flatMap fun c => c.compiled.args⟩

theorem compiled_condition (f : Filter) : f.condition.compiled = Clause.filter f := by
  obtain ⟨field, operator, operand⟩ := f
  cases operator <;> rcases operand with v | _ | ⟨v, vs⟩ <;> rfl

theorem whereAll_map_condition (filters : List Filter) :
    whereAll (filters.map Filter.condition) = Clause.whereAll filters := by
  unfold whereAll Clause.whereAll
  simp only [List.isEmpty_map, List.map_map, List.flatMap_map, compiled_condition, Function.comp_def]

end Condition

namespace Statement

/-- A group of marks, one for each value of a row. -/
def group (row : List Scalar) : String := "(" ++ Clause.placeholders row.length ++ ")"

def insertSql (table : String) (columns : List String) (rows : List (List Scalar)) : String :=
  "INSERT INTO " ++ table ++ " (" ++ Clause.commas columns ++ ") VALUES " ++ Clause.commas (rows.map group)

theorem insertSql_eq (table : String) (columns : List String) (rows : List (List Scalar)) : insertSql table columns rows
    = "INSERT INTO " ++ table ++ " (" ++ Clause.commas columns ++ ") VALUES " ++ Clause.commas (rows.map group) := rfl

/-- What happens on a conflict in the conflict list. -/
def resolution (refresh : List String) : String :=
  if refresh.isEmpty then "DO NOTHING"
  else "DO UPDATE SET " ++ Clause.commas (refresh.map fun c => c ++ " = excluded." ++ c)

/-- The text and the arguments that a statement has. -/
def compiled : Statement → Compiled
  | .noop => .noop
  | .select table fields conditions sort limit offset =>
    ⟨Clause.join ["SELECT " ++ Clause.commas fields ++ " FROM " ++ table, (Condition.whereAll conditions).sql,
      Clause.orderBy sort, Clause.limit limit offset], (Condition.whereAll conditions).args⟩
  | .insertDefaults table => ⟨"INSERT INTO " ++ table ++ " DEFAULT VALUES", []⟩
  | .insert table columns rows => ⟨insertSql table columns rows, rows.flatten⟩
  | .update table assignments conditions =>
    ⟨Clause.join ["UPDATE " ++ table ++ " SET " ++ Clause.commas (assignments.map (·.1 ++ " = ?")),
      (Condition.whereAll conditions).sql], assignments.map (·.2) ++ (Condition.whereAll conditions).args⟩
  | .delete table conditions =>
    ⟨Clause.join ["DELETE FROM " ++ table, (Condition.whereAll conditions).sql], (Condition.whereAll conditions).args⟩
  | .upsert table columns values conflict refresh =>
    if conflict.isEmpty then ⟨insertSql table columns [values] ++ " ON CONFLICT DO NOTHING", values⟩
    else
      ⟨insertSql table columns [values] ++ " ON CONFLICT (" ++ Clause.commas conflict ++ ") " ++ resolution refresh, values⟩

end Statement

theorem length_keys (values : ValueMap) : values.keys.length = values.values.length := by
  simp [KeyMap.keys, KeyMap.values]

/-- The insertion of one row. -/
theorem insert_eq (table : String) {values : ValueMap} (h : values.isEmpty = false) :
    Compiled.insert table values = ⟨Statement.insertSql table values.keys [values.values], values.values⟩ := by
  unfold Compiled.insert
  rw [Statement.insertSql_eq]
  have hopen : ") VALUES (" = ") VALUES " ++ "(" := by decide
  simp only [h, Bool.false_eq_true, if_false, List.map_cons, List.map_nil, Statement.group, Clause.commas,
    String.intercalate_singleton, length_keys, hopen, String.append_assoc]

/-- **What is compiled is the statement of the query**, whatever its names are. -/
theorem Query.compile_eq (q : Query) : q.compile = q.statement.compiled := by
  obtain ⟨table, action⟩ := q
  cases action with
  | select s =>
    simp only [Query.compile, Query.statement, Compiled.select, Statement.compiled, Condition.whereAll_map_condition]
    cases h : s.fields.isEmpty <;> simp [Clause.fields, h, Clause.commas]
  | insert values =>
    simp only [Query.compile, Query.statement]
    cases h : values.isEmpty with
    | true => simp [Compiled.insert, h, Statement.compiled]
    | false => simp [insert_eq table h, Statement.compiled]
  | insertMany rows =>
    simp only [Query.compile, Query.statement, Compiled.insertMany]
    split
    · rfl
    · simp [Statement.compiled, Statement.insertSql_eq, Statement.group, ValueMap.rowIn, List.flatMap_def,
        Function.comp_def, String.append_assoc]
  | update values filters =>
    simp only [Query.compile, Query.statement, Compiled.update]
    split
    · rfl
    · simp [Statement.compiled, Condition.whereAll_map_condition, KeyMap.keys, KeyMap.values, Function.comp_def]
  | delete filters =>
    simp only [Query.compile, Query.statement, Compiled.delete, Statement.compiled, Condition.whereAll_map_condition]
  | deleteMany field ids =>
    have h := Condition.whereAll_map_condition [Filter.inSet field ids]
    simp only [List.map_cons, List.map_nil] at h
    simp only [Query.compile, Query.statement, Compiled.deleteMany, Compiled.delete, Statement.compiled, h]
  | upsert values conflict refresh =>
    simp only [Query.compile, Query.statement, Compiled.upsert]
    cases h : values.isEmpty with
    | true => rfl
    | false =>
      simp only [insert_eq table h, Bool.false_eq_true, if_false, Statement.compiled]
      cases hc : conflict.isEmpty <;> simp [Statement.resolution]

end TypedStorage
