/-
Question marks and arguments of a query line up (`Query.linesUp`). A query puts its scalars into a statement in one
order: what it writes, row by row and column by column, and then what its filters bind (`Action.bound`).
-/
import TypedStorage.Proofs.KeyMap
import TypedStorage.Proofs.Query.Template
import TypedStorage.Proofs.Query.Unambiguous

namespace TypedStorage

/-! ## Names -/

theorem names_condition (f : Filter) : ∀ n ∈ f.condition.names, n = f.field := by
  obtain ⟨field, operator, operand⟩ := f
  cases operator <;> rcases operand with v | _ | ⟨v, vs⟩ <;>
    simp [Filter.condition, Operator.comparison?, Condition.names]

theorem mem_names_conditions {filters : List Filter} {n : String}
    (h : n ∈ (filters.map Filter.condition).flatMap Condition.names) : n ∈ filters.map Filter.field := by
  obtain ⟨c, hc, hn⟩ := List.mem_flatMap.1 h
  obtain ⟨f, hf, rfl⟩ := List.mem_map.1 hc
  rw [names_condition f n hn]
  exact List.mem_map_of_mem hf

/-- A statement takes its names from the query; the mark for all fields is the only one that it adds. -/
theorem Query.mem_names_of_statement {q : Query} {n : String} (h : n ∈ q.statement.names) : n ∈ q.names ∨ n = "*" := by
  obtain ⟨table, action⟩ := q
  cases action with
  | select s =>
    simp only [statement, Statement.names, List.mem_cons, List.mem_append] at h
    simp only [names, List.mem_cons, List.mem_append, List.mem_filter]
    rcases h with h | h | h | h
    · exact .inl (.inl h)
    · by_cases hall : n = "*"
      · exact .inr hall
      · have hfield : n ∈ s.fields := by
          split at h
          · exact absurd (List.mem_singleton.1 h) hall
          · exact h
        exact .inl (.inr (.inl ⟨hfield, by simpa using hall⟩))
    · exact .inl (.inr (.inr (.inl (mem_names_conditions h))))
    · exact .inl (.inr (.inr (.inr h)))
  | insert values =>
    left
    unfold statement at h
    dsimp only at h
    split at h
    · exact List.mem_cons.2 (.inl (List.mem_singleton.1 h))
    · exact h
  | insertMany rows =>
    left
    unfold statement at h
    dsimp only at h
    split at h
    · cases h
    · rcases List.mem_cons.1 h with h | h
      · exact List.mem_cons.2 (.inl h)
      · exact List.mem_cons_of_mem _ (mem_columnUnion.1 h)
  | update values filters =>
    left
    unfold statement at h
    dsimp only at h
    split at h
    · cases h
    · simp only [Statement.names, List.mem_cons, List.mem_append] at h
      simp only [names, List.mem_cons, List.mem_append]
      exact h.imp_right (Or.imp_right mem_names_conditions)
  | delete filters =>
    simp only [statement, Statement.names, List.mem_cons] at h
    exact .inl (List.mem_cons.2 (h.imp_right mem_names_conditions))
  | deleteMany field ids =>
    simp only [statement, Statement.names, List.mem_cons] at h
    exact .inl (List.mem_cons.2 (h.imp_right (@mem_names_conditions [Filter.inSet field ids] n)))
  | upsert values conflict refresh =>
    left
    unfold statement at h
    dsimp only at h
    split at h
    · cases h
    · simp only [Statement.names, List.mem_cons, List.mem_append] at h
      simp only [names, List.mem_cons, List.mem_append]
      rcases h with h | h | h | h
      · exact .inl h
      · exact .inr (.inl h)
      · exact .inr (.inr (.inl h))
      · split at h
        · cases h
        · cases refresh with
          | none => exact .inr (.inl (List.mem_filter.1 h).1)
          | some columns => exact .inr (.inr (.inr h))

/-! ## Arguments -/

/-- What a filter binds. -/
def Filter.bound (f : Filter) : List Scalar :=
  match f.operand with
  | .single v => if f.operator.takesSeveral then [] else [v]
  | .multiple vs => if f.operator.takesSeveral then vs else []

namespace Action

/-- The rows that are written. -/
def rows : Action → List ValueMap
  | .insert values | .update values _ | .upsert values _ _ => [values]
  | .insertMany rows => rows
  | .select _ | .delete _ | .deleteMany _ _ => []

/-- The columns that are written, those of any row. -/
def columns (a : Action) : List String := columnUnion a.rows

/-- The conditions on the rows that are meant. -/
def filters : Action → List Filter
  | .select s => s.filters
  | .update _ filters | .delete filters => filters
  | .deleteMany field ids => [.inSet field ids]
  | .insert _ | .insertMany _ | .upsert _ _ _ => []

/-- The scalars of an action: its rows, column by column, and what its filters bind. -/
def bound (a : Action) : List Scalar :=
  a.rows.flatMap (ValueMap.rowIn · a.columns) ++ a.filters.flatMap Filter.bound

/-- There is nothing to write. Deleting and inserting a row of defaults need no values. -/
def isIdle : Action → Bool
  | .insertMany rows => rows.all KeyMap.isEmpty
  | .update values _ | .upsert values _ _ => values.isEmpty
  | .select _ | .insert _ | .delete _ | .deleteMany _ _ => false

end Action

theorem args_condition (f : Filter) : f.condition.compiled.args = f.bound := by
  obtain ⟨field, operator, operand⟩ := f
  cases operator <;> rcases operand with v | _ | ⟨v, vs⟩ <;> rfl

theorem args_conditions (filters : List Filter) :
    (Condition.whereAll (filters.map Filter.condition)).args = filters.flatMap Filter.bound := by
  unfold Condition.whereAll
  cases filters with
  | nil => rfl
  | cons f filters => simp [List.flatMap_map, args_condition]

theorem columnUnion_singleton (values : ValueMap) : columnUnion [values] = values.keys := by
  have hsorted : SortedKeys (values.keys.map fun c => (c, ())) := by
    unfold SortedKeys KeyMap.keys
    rw [List.map_map, List.map_map]
    exact values.sorted
  have hentries : (KeyMap.ofPairs (values.keys.map fun c => (c, ()))).entries = values.keys.map fun c => (c, ()) :=
    hsorted.sortEntries_eq
  rw [columnUnion, List.flatMap_cons, List.flatMap_nil, List.append_nil, KeyMap.keys, hentries, List.map_map]
  exact List.map_id _

theorem sorted_columnUnion (rows : List ValueMap) : (columnUnion rows).Pairwise (· < ·) := KeyMap.sorted _

theorem columnUnion_isEmpty (rows : List ValueMap) : (columnUnion rows).isEmpty = rows.all KeyMap.isEmpty := by
  rw [Bool.eq_iff_iff, List.isEmpty_iff, List.eq_nil_iff_forall_not_mem, List.all_eq_true]
  constructor
  · intro h row hrow
    by_contra hne
    obtain ⟨c, hc⟩ := List.exists_mem_of_ne_nil _ (KeyMap.isEmpty_eq_false_iff.1 (Bool.not_eq_true _ ▸ hne))
    exact h c (mem_columnUnion.2 (List.mem_flatMap.2 ⟨row, hrow, hc⟩))
  · intro h c hc
    obtain ⟨row, hrow, hkey⟩ := List.mem_flatMap.1 (mem_columnUnion.1 hc)
    have hempty : row.entries = [] := List.isEmpty_iff.1 (h row hrow)
    rw [KeyMap.keys, hempty] at hkey
    cases hkey

theorem Query.statement_eq_noop_iff (q : Query) : q.statement = .noop ↔ q.action.isIdle := by
  obtain ⟨table, action⟩ := q
  cases action with
  | insertMany rows =>
    rw [Action.isIdle, ← columnUnion_isEmpty, statement]
    split <;> simp_all
  | insert values | update values _ | upsert values _ _ =>
    cases h : values.isEmpty <;> simp [statement, Action.isIdle, h]
  | select _ | delete _ | deleteMany _ _ => simp [statement, Action.isIdle]

/-- What is bound is what the query holds, unless there is nothing to write. -/
theorem Query.args_compile {q : Query} (h : q.action.isIdle = false) : q.compile.args = q.action.bound := by
  rw [compile_eq]
  obtain ⟨table, action⟩ := q
  cases action with
  | select s => exact args_conditions s.filters
  | insert values =>
    simp only [Action.bound, Action.columns, Action.rows, columnUnion_singleton, Action.filters, List.flatMap_cons,
      List.flatMap_nil, ValueMap.rowIn_keys, List.append_nil, statement]
    cases he : values.isEmpty with
    | true =>
      have hentries : values.entries = [] := List.isEmpty_iff.1 he
      simp [Statement.compiled, KeyMap.values, hentries]
    | false => simp [Statement.compiled]
  | insertMany rows =>
    rw [Action.isIdle, ← columnUnion_isEmpty] at h
    simp [statement, h, Statement.compiled, Action.bound, Action.columns, Action.rows, Action.filters, List.flatMap_def]
  | update values filters =>
    rw [Action.isIdle] at h
    simp only [statement, h, Bool.false_eq_true, if_false, Statement.compiled, args_conditions, Action.bound,
      Action.columns, Action.rows, columnUnion_singleton, Action.filters, List.flatMap_cons, List.flatMap_nil,
      ValueMap.rowIn_keys, List.append_nil]
    rfl
  | delete filters => exact args_conditions filters
  | deleteMany field ids => exact args_conditions [Filter.inSet field ids]
  | upsert values conflict refresh =>
    rw [Action.isIdle] at h
    simp only [statement, h, Bool.false_eq_true, if_false, Statement.compiled, Action.bound, Action.columns,
      Action.rows, columnUnion_singleton, Action.filters, List.flatMap_cons, List.flatMap_nil, ValueMap.rowIn_keys,
      List.append_nil]
    split <;> rfl

/-! ## All of it -/

/-- The text and the arguments of what a query compiles to belong to each other. -/
structure Query.LinesUp (q : Query) : Prop where
  /-- They are those of one template, in which each scalar stands in the place of its mark. -/
  template : q.compile = q.statement.template.compiled
  count : q.compile.sql.toList.count '?' = q.compile.args.length
  args : q.action.isIdle = false → q.compile.args = q.action.bound
  /-- The columns are those that any row has, in increasing order. -/
  columns : q.action.columns.Pairwise (· < ·) ∧ ∀ c, c ∈ q.action.columns ↔ ∃ row ∈ q.action.rows, c ∈ row.keys
  /-- Nothing at all is compiled where there is nothing to write, and nowhere else. -/
  noop : q.compile = .noop ↔ q.action.isIdle
  empty : q.compile.sql = "" ↔ q.action.isIdle

/-- **Question marks and arguments line up**, in every query that has no question mark in a name. -/
theorem Query.linesUp {q : Query} (h : ∀ n ∈ q.names, '?' ∉ n.toList) : q.LinesUp where
  template := by rw [Statement.compiled_template, compile_eq]
  count := by
    have hnames : ∀ n ∈ q.statement.names, '?' ∉ n.toList := by
      intro n hn
      rcases mem_names_of_statement hn with hn | rfl
      · exact h n hn
      · decide
    rw [compile_eq, ← Statement.compiled_template]
    exact Template.count_sql (Statement.unmarked_template hnames)
  args := args_compile
  columns := ⟨sorted_columnUnion _, fun c => mem_columnUnion.trans List.mem_flatMap⟩
  noop := by
    rw [compile_eq, ← statement_eq_noop_iff]
    constructor
    · intro he
      exact (Statement.sql_eq_empty_iff _).1 (congrArg Compiled.sql he)
    · intro he
      rw [he]
      rfl
  empty := by rw [compile_eq, Statement.sql_eq_empty_iff, statement_eq_noop_iff]

/-- Names that could name nothing, question marks in the data, and filters that bind two values, none and none. -/
theorem Query.linesUp_update :
    let q : Query := ⟨"my table", .update (KeyMap.ofPairs [("b;", .text "?"), ("a b", .integer 2)])
      [.inSet "key" [.null, .boolean true], .inSet "" [], ⟨"x", .like, .multiple [.null]⟩]⟩
    (∀ n ∈ q.names, '?' ∉ n.toList) ∧ q.LinesUp := by
  have h : ∀ n ∈ ["my table", "a b", "b;", "key", "", "x"], '?' ∉ n.toList := by decide
  exact ⟨h, linesUp h⟩

end TypedStorage
