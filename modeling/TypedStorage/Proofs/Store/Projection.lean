/-
What `find` finds are records that the store holds, as far as the selected columns show them
(`RecordType.find_shows`). Whatever a store was told to do, each cell of its table holds what is stored of a value of
its field (`RecordType.fits_run`): new rows are rows of records, and a row that is changed has each cell as it was or
from a new record. So there is a record for every row, and what is read of the row agrees with it.

A column that is not selected is read as null, without an error if the field may be absent, and a double in JSON is
read as its text is. The record that is found need not be one that is stored, then (`RecordType.finds_unstored`).
-/
import TypedStorage.Proofs.Json.Typed
import TypedStorage.Proofs.Record.Declared
import TypedStorage.Proofs.Record.Shown
import TypedStorage.Proofs.Store.Refinement
import TypedStorage.Record.Samples

namespace TypedStorage

open Engine (Stored)

/-! ## Rows of one kind -/

namespace Sql

variable {d : Dialect} {t : Table} {P : Row → Prop}

/-- The rows that a statement adds are of this kind, and those it changes stay of it. -/
def Puts (P : Row → Prop) : Statement → Prop
  | .insert _ columns rows => ∀ values ∈ rows, P (newRow columns values)
  | .update _ assignments _ => ∀ row, P row → P (assigned assignments row)
  | .upsert _ columns values _ refresh =>
    P (newRow columns values) ∧ ∀ row, P row → P (refreshed refresh (newRow columns values) row)
  | _ => True

theorem eq_of_checked {rows after : List Row} {n count : Nat} (h : checked d t rows n = some (after, count)) :
    after = rows := by
  rw [checked] at h
  split at h
  · cases h
    rfl
  · cases h

theorem forall_mem_of_change? {s : Statement} (hs : Puts P s) {rows after : List Row} (hrows : ∀ row ∈ rows, P row)
    {count : Nat} (h : change? d t rows s = some (after, count)) : ∀ row ∈ after, P row := by
  cases s with
  | noop | select _ _ _ _ _ _ | insertDefaults _ => cases h
  | insert name columns values =>
    rw [eq_of_checked h, List.forall_mem_append]
    refine ⟨hrows, fun row hrow => ?_⟩
    obtain ⟨v, hv, rfl⟩ := List.mem_map.1 hrow
    exact hs v hv
  | update name assignments conditions =>
    obtain ⟨keep, -, hchange⟩ := Option.bind_eq_some_iff.1 h
    rw [eq_of_checked hchange]
    intro row hrow
    obtain ⟨old, hold, rfl⟩ := List.mem_map.1 hrow
    split
    · exact hs old (hrows old hold)
    · exact hrows old hold
  | delete name conditions =>
    obtain ⟨keep, -, hchange⟩ := Option.bind_eq_some_iff.1 h
    cases hchange
    exact fun row hrow => hrows row (List.mem_of_mem_filter hrow)
  | upsert name columns values conflict refresh =>
    have hadded : ∀ row ∈ rows ++ [newRow columns values], P row :=
      List.forall_mem_append.2 ⟨hrows, List.forall_mem_singleton.2 hs.1⟩
    have hchanged : ∀ meets : Row → Bool, ∀ row ∈ rows.map fun other =>
        if meets other then refreshed refresh (newRow columns values) other else other, P row := by
      intro meets row hrow
      obtain ⟨old, hold, rfl⟩ := List.mem_map.1 hrow
      split
      · exact hs.2 old (hrows old hold)
      · exact hrows old hold
    rw [change?] at h
    dsimp only at h
    split at h
    · split at h
      · cases h
        exact hrows
      · rw [eq_of_checked h]
        exact hadded
    · split at h
      · split at h
        · split at h
          · cases h
            exact hrows
          · rw [eq_of_checked h]
            exact hchanged _
        · rw [eq_of_checked h]
          exact hadded
      · cases h

/-- What the database finds for the selection are rows of the table, in the columns that are asked for. -/
def Selects {ρ : Type} (d : Dialect) (t : Table) (db : Database ρ) (rows : ρ → List Row) (q : Selection) : Prop :=
  ∀ {state found state'}, db.read (.query (q.of t.name)) state = (.ok found, state') →
    ∃ columns, asked? d t (if q.fields.isEmpty then ["*"] else q.fields) = some columns
      ∧ ∀ v ∈ found, ∃ row ∈ rows state, v = shown columns row

/-- An ordinary database does so for all selections that have valid names. -/
theorem selects_of_runsTable {ρ : Type} {db : Database ρ} {rows : ρ → List Row} (hdb : RunsTable d t db rows)
    {q : Selection} (hq : (q.of t.name).NamesValid) : Selects d t db rows q := by
  intro state found state' hread
  have hquery := statement?_compile hq
  obtain ⟨visited, after, hvisited, -, hanswer⟩ := hdb.read (.query (q.of t.name)) _ hquery rfl rfl state
  cases hselect : select? d t visited (q.of t.name).statement with
  | none =>
    rw [hselect] at hanswer
    obtain ⟨e, he⟩ := hanswer
    rw [hread] at he
    cases he
  | some found' =>
    rw [hselect] at hanswer
    dsimp only at hanswer
    rw [hread] at hanswer
    cases hanswer
    simp only [Selection.of, Query.statement, select?, Option.bind_eq_bind, Option.bind_eq_some_iff, Option.pure_def,
      Option.some.injEq] at hselect
    obtain ⟨columns, hcolumns, keep, -, keys, -, rfl⟩ := hselect
    refine ⟨columns, hcolumns, fun v hv => ?_⟩
    obtain ⟨row, hrow, rfl⟩ := List.mem_map.1 hv
    have hmem := List.mem_of_mem_filter (List.mem_mergeSort.1 (mem_of_mem_window hrow))
    exact ⟨row, hvisited.mem_iff.1 hmem, rfl⟩

end Sql

namespace RecordType

variable {σ : String → Type} {t : RecordType} {constants : Expression → Scalar}

/-! ## Rows of records -/

/-- Each cell of the row is what is stored of a value of its field. -/
def Fits (t : RecordType) (row : Sql.Row) : Prop := ∀ f ∈ t.fields, f.Fits (row f.column)

/-- One of the rows holds the record. -/
def IsStored (t : RecordType) (rows : List Sql.Row) (x : t.Record σ) : Prop := ∃ row ∈ rows, Values.IsIn t.fields x row

theorem Fits.mixed {row row' mixed : Sql.Row} (h : t.Fits row) (h' : t.Fits row')
    (hmixed : ∀ c, mixed c = row c ∨ mixed c = row' c) : t.Fits mixed := by
  intro f hf type hrole
  rcases hmixed f.column with hc | hc
  · rw [hc]
    exact h f hf type hrole
  · rw [hc]
    exact h' f hf type hrole

section

variable (hn : (t.stored.map (·.column)).Nodup)

include hn

theorem fits_row (x : t.Record σ) : t.Fits (t.row x) := by
  intro f hf type hrole
  have hstored : f.isStored := by rw [Field.isStored, hrole]; rfl
  obtain ⟨s, hs⟩ := exists_scalar x (List.mem_filter.2 ⟨hf, hstored⟩)
  obtain ⟨type', v, hrole', rfl⟩ := Values.exists_of_mem_scalars hs
  obtain rfl : type = type' := FieldRole.stored.inj (hrole.symm.trans hrole')
  exact ⟨v, row_eq hn x hs⟩

theorem newRow_fieldValues (x : t.Record σ) {columns : List String}
    (hc : ∀ c ∈ t.stored.map (·.column), c ∈ columns) :
    Sql.newRow columns ((t.fieldValues x).rowIn columns) = t.row x :=
  Sql.newRow_rowIn fun c hmem => hc c ((mem_keys_fieldValues hn x).1 hmem)

end

/-! ## Queries that write -/

/-- What is written fits, if anything is; all names are valid, so the database takes it for the statement that it is. -/
structure Writes (t : RecordType) (constants : Expression → Scalar) (q : Query) : Prop where
  names : q.NamesValid
  statement : q.statement = .noop ∨ q.statement.table? = some t.table
    ∧ Sql.IsRegular (t.sqlTable constants) q.statement ∧ Sql.Puts t.Fits q.statement

section

variable (hn : (t.stored.map (·.column)).Nodup)

include hn

theorem writes_insertQuery (x : t.Record σ) : t.Writes constants (t.mapping.insertQuery x) where
  names := namesValid_insertQuery hn x
  statement := by
    have hcolumns : ∀ c, c ∈ (t.fieldValues x).keys ↔ c ∈ t.stored.map (·.column) := fun c => mem_keys_fieldValues hn x
    rw [statement_insertQuery hn]
    refine .inr ⟨rfl, isRegular_insert (t.fieldValues x).nodup_keys hcolumns _ _, fun values hv => ?_⟩
    obtain rfl := List.mem_singleton.1 hv
    rw [newRow_fieldValues hn x fun c hc => (hcolumns c).2 hc]
    exact fits_row hn x

theorem writes_insertManyQuery (xs : List (t.Record σ)) : t.Writes constants (t.mapping.insertManyQuery xs) where
  names := namesValid_insertManyQuery hn xs
  statement := by
    by_cases hxs : xs = []
    · subst hxs
      exact .inl rfl
    have hcolumns := mem_columnUnion_fieldValues hn hxs
    rw [statement_insertManyQuery hn hxs]
    refine .inr ⟨rfl, isRegular_insert (KeyMap.nodup_keys _) hcolumns _ _, fun values hv => ?_⟩
    obtain ⟨_, hmap, rfl⟩ := List.mem_map.1 hv
    obtain ⟨x, -, rfl⟩ := List.mem_map.1 hmap
    rw [newRow_fieldValues hn x fun c hc => (hcolumns c).2 hc]
    exact fits_row hn x

theorem writes_updateQuery (x : t.Record σ) : t.Writes constants (t.mapping.updateQuery x) where
  names := namesValid_updateQuery hn x
  statement := by
    have hstatement : (t.mapping.updateQuery x).statement = if ((t.fieldValues x).erase t.key.column).isEmpty then .noop
        else .update t.table ((t.fieldValues x).erase t.key.column).entries
          [(t.mapping.hasKey (t.keyValue x)).condition] := rfl
    rw [hstatement]
    split
    · exact .inl rfl
    · refine .inr ⟨rfl, isRegular_update hn x _ _, fun row hrow => hrow.mixed (fits_row hn x) fun c => ?_⟩
      rw [Sql.assigned_entries, KeyMap.get?_erase]
      split
      · exact .inl rfl
      · cases hv : (t.fieldValues x).get? c with
        | none => exact .inl rfl
        | some v =>
          right
          rw [RecordType.row, KeyMap.cell, hv]
          rfl

theorem writes_upsertQuery (x : t.Record σ) : t.Writes constants (t.mapping.upsertQuery x) where
  names := namesValid_upsertQuery hn x
  statement := by
    have hrow : Sql.newRow (t.fieldValues x).keys (t.fieldValues x).values = t.row x := by
      rw [← ValueMap.rowIn_keys]
      exact newRow_fieldValues hn x fun c hc => (mem_keys_fieldValues hn x).2 hc
    rw [statement_upsertQuery hn]
    refine .inr ⟨rfl, isRegular_upsert hn x _ _, ?_⟩
    rw [Sql.Puts, hrow]
    refine ⟨fits_row hn x, fun old hold => (fits_row hn x).mixed hold fun c => ?_⟩
    rw [Sql.refreshed]
    split
    · exact .inl rfl
    · exact .inr rfl

end

theorem writes_deleteQuery (key : Scalar) : t.Writes constants ((t.mapping (σ := σ)).deleteQuery key) :=
  ⟨namesValid_keyed rfl, .inr ⟨rfl, trivial, trivial⟩⟩

theorem writes_deleteManyQuery (keys : List Scalar) : t.Writes constants ((t.mapping (σ := σ)).deleteManyQuery keys) :=
  ⟨namesValid_keyed rfl, .inr ⟨rfl, trivial, trivial⟩⟩

/-! ## Steps and runs -/

variable {d : Sql.Dialect} {κ ρ : Type} {store : RecordStore ρ κ (t.Record σ)} {rows : ρ → List Sql.Row} {state : ρ}

theorem fits_execute (hdb : Sql.RunsTable d (t.sqlTable constants) store.database rows) {q : Query}
    (hq : t.Writes constants q) (h : ∀ row ∈ rows state, t.Fits row) :
    ∀ row ∈ rows (store.database.execute q state).2, t.Fits row := by
  rcases hq.statement with hnoop | ⟨htable, hregular, hputs⟩
  · rw [Database.execute, if_pos (q.isNoop_compile.2 hnoop)]
    exact h
  · have hchange := execute_spec hdb hq.names rfl htable hregular state
    cases hc : Sql.change? d (t.sqlTable constants) (rows state) q.statement with
    | none =>
      rw [hc] at hchange
      obtain ⟨e, state', he, hp⟩ := hchange
      rw [he]
      exact fun row hrow => h row (hp.mem_iff.1 hrow)
    | some change =>
      obtain ⟨after, count⟩ := change
      rw [hc] at hchange
      obtain ⟨state', he, hp⟩ := hchange
      rw [he]
      exact fun row hrow => Sql.forall_mem_of_change? hputs h hc row (hp.mem_iff.1 hrow)

/-- A record is alone in a table that was empty. -/
theorem rows_create [∀ name, Inhabited (σ name)] (hn : (t.stored.map (·.column)).Nodup)
    (hs : store.schema = t.schema constants)
    (hdb : Sql.RunsTable d (t.sqlTable constants) store.database rows) {x : t.Record σ}
    (hnull : ∀ c ∈ (t.sqlTable constants).notNull, (t.row x c).isNull = false) (hempty : rows state = []) :
    rows (store.answer (.create x) state).2 = [t.row x] := by
  have hcolumns : ∀ c, c ∈ (t.fieldValues x).keys ↔ c ∈ t.stored.map (·.column) := fun c => mem_keys_fieldValues hn x
  have hkeeps : Sql.Keeps d (t.sqlTable constants) [t.row x] := ⟨by simpa using hnull, List.pairwise_singleton _ _⟩
  have hchange : Sql.change? d (t.sqlTable constants) (rows state) (.insert t.table (t.fieldValues x).keys
      (([x].map t.fieldValues).map (ValueMap.rowIn · (t.fieldValues x).keys))) = some ([t.row x], 1) := by
    rw [hempty, Sql.change?, List.map_singleton, List.map_singleton, List.map_singleton,
      newRow_fieldValues hn x fun c hc => (hcolumns c).2 hc, Sql.checked]
    exact if_pos hkeeps
  have hexecute := execute_spec hdb (namesValid_insertQuery hn x) (statement_insertQuery hn x) rfl
    (isRegular_insert (KeyMap.nodup_keys _) hcolumns _ _) state
  rw [hchange] at hexecute
  obtain ⟨state', he, hp⟩ := hexecute
  have hstate : (store.answer (.create x) state).2 = state' := by
    rw [store.answer_create, hs]
    exact congrArg Prod.snd he
  rw [hstate]
  exact List.perm_singleton.1 hp

section

variable (hkeeps : ∀ c state, (rows (store.database.read c state).2).Perm (rows state))

include hkeeps

theorem perm_fetchRecords (q : Query) : (rows (store.fetchRecords q state).2).Perm (rows state) := by
  have hfetch : (rows (store.database.fetch q state).2).Perm (rows state) := by
    rw [Database.fetch]
    split
    · exact .refl _
    · exact hkeeps _ _
  rw [store.fetchRecords_apply]
  rcases hf : store.database.fetch q state with ⟨_ | _, state'⟩ <;> rw [hf] at hfetch <;> exact hfetch

variable [∀ name, Inhabited (σ name)] (hn : (t.stored.map (·.column)).Nodup) (hs : store.schema = t.schema constants)
  (hdb : Sql.RunsTable d (t.sqlTable constants) store.database rows)

include hn hs hdb

/-- One operation leaves rows that fit. -/
theorem fits_answer (op : Operation (t.Record σ)) (h : ∀ row ∈ rows state, t.Fits row) :
    ∀ row ∈ rows (store.answer op state).2, t.Fits row := by
  have hwrites : ∀ {q : Query}, t.Writes constants q → ∀ row ∈ rows (store.database.execute q state).2, t.Fits row :=
    fun hq => fits_execute hdb hq h
  have hreads : ∀ q, ∀ row ∈ rows (store.fetchRecords q state).2, t.Fits row :=
    fun q row hrow => h row ((perm_fetchRecords hkeeps q).mem_iff.1 hrow)
  cases op with
  | create x =>
    rw [store.answer_create, hs]
    exact hwrites (writes_insertQuery hn x)
  | createMany xs =>
    rw [store.answer_createMany, hs]
    exact hwrites (writes_insertManyQuery hn xs)
  | update x =>
    rw [store.answer_update, hs]
    exact hwrites (writes_updateQuery hn x)
  | upsert x =>
    rw [store.answer_upsert, hs]
    exact hwrites (writes_upsertQuery hn x)
  | delete key =>
    rw [store.answer_delete, hs]
    exact hwrites (writes_deleteQuery key)
  | deleteMany keys =>
    rw [store.answer_deleteMany, hs]
    exact hwrites (writes_deleteManyQuery keys)
  | getById key =>
    rw [store.answer_getById]
    exact hreads _
  | find q =>
    rw [store.answer_find]
    exact hreads _
  | findOne q =>
    rw [store.answer_findOne]
    exact hreads _
  | listAll =>
    rw [store.answer_listAll, store.answer_find]
    exact hreads _

/-- **Each cell of a table that is written through a store holds a value of its field.** -/
theorem fits_run (ops : List (Operation (t.Record σ))) (h : ∀ row ∈ rows state, t.Fits row) :
    ∀ row ∈ rows (store.run ops state).2, t.Fits row := by
  induction ops generalizing state with
  | nil => exact h
  | cons op ops ih => exact ih (fits_answer hkeeps hn hs hdb op h)

end

/-! ## What is found -/

section

variable [∀ name, Inhabited (σ name)] (hs : store.schema = t.schema constants)

include hs

theorem find_apply (q : Selection) : store.find q state =
    match store.database.read (.query (q.of t.table)) state with
    | (.ok found, state') => (found.mapM (Values.read t.fields), state')
    | (.error e, state') => (.error e, state') := by
  have hne : (q.of t.table).statement ≠ .noop := fun he => by cases he
  have happly := store.fetchRecords_apply state (q.of t.table)
  rw [Database.fetch, Query.isNoop_eq_false hne, if_neg Bool.false_ne_true, hs] at happly
  rw [RecordStore.find, hs]
  exact happly

/-- A selection that succeeds is answered with the records in what the database found. -/
theorem exists_found {q : Selection} {ys : List (t.Record σ)} {state' : ρ} (h : store.find q state = (.ok ys, state')) :
    ∃ found, store.database.read (.query (q.of t.table)) state = (.ok found, state')
      ∧ found.mapM (Values.read t.fields) = .ok ys := by
  rw [find_apply hs] at h
  rcases hread : store.database.read (.query (q.of t.table)) state with ⟨_ | found, after⟩
  · rw [hread] at h
    cases h
  · rw [hread] at h
    obtain ⟨hys, rfl⟩ := Prod.mk.inj h
    exact ⟨found, rfl, hys⟩

end

/--
**What is found is stored, as far as it is selected.** Each record that `find` finds agrees with one record that the
store holds in all fields whose columns are selected, and has no value in the others. Where all optional columns are
selected, it is that record.
-/
theorem find_shows [∀ name, Inhabited (σ name)] (hn : t.columns.Nodup) (hstored : ∀ f ∈ t.fields, f.isStored)
    (hs : store.schema = t.schema constants) (hdb : Sql.RunsTable d (t.sqlTable constants) store.database rows)
    (hkeeps : ∀ c state, (rows (store.database.read c state).2).Perm (rows state)) (hempty : rows state = [])
    (ops : List (Operation (t.Record σ))) {q : Selection}
    (hq : Sql.Selects d (t.sqlTable constants) store.database rows q)
    {ys : List (t.Record σ)} {state' : ρ} (hfind : store.find q (store.run ops state).2 = (.ok ys, state')) :
    ∃ columns, Sql.asked? d (t.sqlTable constants) (if q.fields.isEmpty then ["*"] else q.fields) = some columns
      ∧ ∀ y ∈ ys, ∃ x, t.IsStored (rows (store.run ops state).2) x ∧ Values.Shows columns t.fields x y
        ∧ ((∀ f ∈ t.fields, f.isOptional → f.column ∈ columns) →
          (∀ p ∈ Values.scalars t.fields x, p.2.KeepsDoubles) → y = x) := by
  have hall : t.stored = t.fields := List.filter_eq_self.2 hstored
  have hfits : ∀ row ∈ rows (store.run ops state).2, t.Fits row := by
    refine fits_run hkeeps (by rw [hall]; exact hn) hs hdb ops fun row hrow => ?_
    rw [hempty] at hrow
    cases hrow
  obtain ⟨found, hread, hys⟩ := exists_found hs hfind
  obtain ⟨columns, hcolumns, hshown⟩ := hq hread
  refine ⟨columns, hcolumns, fun y hy => ?_⟩
  obtain ⟨v, hv, hy⟩ := Json.exists_mem_of_forall₂ (forall₂_of_mapM hys) y hy
  obtain ⟨row, hrow, rfl⟩ := hshown v hv
  obtain ⟨x, hin, hshows⟩ := Values.exists_shows (hfits row hrow) hy
  exact ⟨x, ⟨row, hrow, hin⟩, hshows, fun hopt hd => Values.eq_of_shows hstored hopt hd hshows⟩

/-! ## Records that are found and not stored -/

/-- A store over an ordinary database, which is written to from the empty table, finds a record that is not stored. -/
structure FindsUnstored (d : Sql.Dialect) (t : RecordType) (constants : Expression → Scalar)
    (store : RecordStore (List Sql.Row) Unit (t.Record Unit)) (ops : List (Operation (t.Record Unit))) (q : Selection)
    (y : t.Record Unit) : Prop where
  accepted : ∃ declaration, ofDeclaration declaration = .ok t
  distinct : t.columns.Nodup
  stored : ∀ f ∈ t.fields, f.isStored
  schema : store.schema = t.schema constants
  ordinary : Sql.RunsTable d (t.sqlTable constants) store.database id
  found : (store.find q (store.run ops []).2).1 = .ok [y]
  unstored : ¬t.IsStored (store.run ops []).2 y

end RecordType

namespace Samples

def noConstants : Expression → Scalar := fun _ => .null

/-- A store with a database of its own, which has the table of the type and no other. -/
def storeOf (t : RecordType) : RecordStore (List Sql.Row) Unit (t.Record Unit) where
  database := (t.sqlTable noConstants).database (.plain (t.sqlTable noConstants))
  schema := t.schema noConstants
  signals := none

/-- A selection that is not filtered or cut off shows a row that is alone. -/
theorem read_alone (t : RecordType) {q : Selection} {columns : List String} (hq : (q.of t.table).NamesValid)
    (hall : q.filters = [] ∧ q.sort = [] ∧ q.limit = none ∧ q.offset = none)
    (hasked : Sql.asked? (.plain (t.sqlTable noConstants)) (t.sqlTable noConstants)
      (if q.fields.isEmpty then ["*"] else q.fields) = some columns) (row : Sql.Row) :
    (storeOf t).database.read (.query (q.of t.table)) [row] = (.ok [Sql.shown columns row], [row]) := by
  obtain ⟨fields, filters, sort, limit, offset⟩ := q
  obtain ⟨rfl, rfl, rfl, rfl⟩ := hall
  have hselect : Sql.select? (.plain (t.sqlTable noConstants)) (t.sqlTable noConstants) [row]
      (Selection.of ⟨fields, [], [], none, none⟩ t.table).statement = some [Sql.shown columns row] := by
    show (do return (Sql.window none none ([row].mergeSort _)).map (Sql.shown (← Sql.asked? _ _ _))) = _
    rw [hasked, List.mergeSort_singleton]
    rfl
  have hquery : (Command.query (Selection.of ⟨fields, [], [], none, none⟩ t.table)).compile.statement? = some _ :=
    statement?_compile hq
  show Sql.Table.read _ _ _ _ = _
  rw [Sql.Table.read, hquery, Option.bind_some, hselect]

theorem runsTable_storeOf (t : RecordType) :
    Sql.RunsTable (.plain (t.sqlTable noConstants)) (t.sqlTable noConstants) (storeOf t).database id :=
  Sql.runsTable_database _ _

/-! ### A selection without a column -/

/-- All columns but that of the age. -/
def withoutAge : Selection := .build [.fields ["name", "id"]]

/-- What the table holds after one person is created. -/
def ada : List Sql.Row := ((storeOf personType).run [.create (personOf "Ada" 1 (some 36))] []).2

theorem ada_eq : ada = [personType.row (personOf "Ada" 1 (some 36))] :=
  RecordType.rows_create (by decide +kernel) rfl (runsTable_storeOf personType) (by decide +kernel) rfl

theorem find_ada : ((storeOf personType).find withoutAge ada).1 = .ok [personOf "Ada" 1 none] := by
  have hread (row : Sql.Row) : (storeOf personType).database.read (.query (withoutAge.of personType.table)) [row]
      = (.ok [Sql.shown ["name", "id"] row], [row]) :=
    read_alone personType (by decide +kernel) ⟨rfl, rfl, rfl, rfl⟩ (by decide +kernel) row
  rw [ada_eq, RecordType.find_apply rfl, hread]
  rfl

theorem not_isStored_ada : ¬personType.IsStored ada (personOf "Ada" 1 none) := by
  rw [ada_eq]
  rintro ⟨row, hrow, hin⟩
  obtain rfl := List.mem_singleton.1 hrow
  have hage : Stored.integer 36 = .null := hin (personType.fields[2], .null) (.tail _ (.tail _ (.head _)))
  cases hage

/-! ### A double that its text loses -/

def letter : Declaration := ⟨"Letter", .namedFields, [tableAttribute "letter"], [
  ⟨"title", "String", [keyAttribute]⟩,
  ⟨"body", "serde_json::Value", []⟩]⟩

def letterType : RecordType where
  name := "Letter"
  table := "letter"
  fields := [
    ⟨"title", "title", "TEXT", true, false, false, none, .stored ⟨.text, false⟩,
      fun _ => by decide +kernel, fun _ => rfl⟩,
    ⟨"body", "body", "TEXT", false, true, false, none, .stored ⟨.json, false⟩,
      fun _ => by decide +kernel, fun _ => rfl⟩]
  table_valid := by decide +kernel
  one_key := rfl

def number (x : Double.Finite) : Json.Document := ⟨.number (.double x), trivial⟩

def letterOf (x : Double.Finite) : letterType.Record Unit := ("Hello", number x, ())

theorem row_letterOf (x : Double.Finite) :
    letterType.row (letterOf x) "title" = .text "Hello" ∧ letterType.row (letterOf x) "body" = .text (number x).text := by
  have hn : (letterType.stored.map (·.column)).Nodup := by decide +kernel
  exact ⟨RecordType.row_eq hn (letterOf x) (.head _), RecordType.row_eq hn (letterOf x) (.tail _ (.head _))⟩

theorem read_letter (row : Sql.Row) :
    (storeOf letterType).database.read (.query (Selection.all.of letterType.table)) [row]
      = (.ok [Sql.shown ["title", "body"] row], [row]) :=
  read_alone letterType (by decide +kernel) ⟨rfl, rfl, rfl, rfl⟩ (by decide +kernel) row

/-- The number in a letter is found as its text is read. -/
theorem find_letter {x y : Double.Finite} (h : Json.Number.reread (.double x) = some (.double y)) :
    ((storeOf letterType).find .all [letterType.row (letterOf x)]).1 = .ok [letterOf y] := by
  have htext : Json.Document.ofText? (number x).text = some (number y) := by
    rw [Json.Document.ofText?, Json.Document.text, Json.read?_text, Option.bind_some, number, Json.readBack, h]
    rfl
  obtain ⟨htitle, hbody⟩ := row_letterOf x
  generalize letterType.row (letterOf x) = row at htitle hbody
  have hletter : Values.read letterType.fields (Sql.shown ["title", "body"] row) = .ok (letterOf y) := by
    refine Values.read_cons_eq_ok.2 ⟨Values.read_stored_eq_ok.2 ?_, Values.read_cons_eq_ok.2 ⟨?_, rfl⟩⟩
    · rw [Sql.cell_shown, if_pos (by decide), htitle]
      rfl
    · refine Values.read_stored_eq_ok.2 ?_
      rw [Sql.cell_shown, if_pos (by decide), hbody]
      exact fromScalar_eq_ok.2 htext
  rw [RecordType.find_apply rfl, read_letter]
  show ([_].mapM (Values.read letterType.fields) : Except StoreError (List (letterType.Record Unit))) = _
  rw [List.mapM_cons, hletter]
  rfl

/-- 0.9043404810019485 and the double before it, as which its text is read. -/
def written : Double.Finite := ⟨false, 0x3fecf05b72cb45dd, by decide⟩
def lost : Double.Finite := ⟨false, 0x3fecf05b72cb45dc, by decide⟩

/-- What the table holds after one letter is created. -/
def letters : List Sql.Row := ((storeOf letterType).run [.create (letterOf written)] []).2

theorem letters_eq : letters = [letterType.row (letterOf written)] :=
  RecordType.rows_create (by decide +kernel) rfl (runsTable_storeOf letterType) (by decide +kernel) rfl

theorem find_letters : ((storeOf letterType).find .all letters).1 = .ok [letterOf lost] := by
  rw [letters_eq]
  exact find_letter (by decide +kernel)

theorem not_isStored_letters : ¬letterType.IsStored letters (letterOf lost) := by
  rw [letters_eq]
  rintro ⟨row, hrow, hin⟩
  obtain rfl := List.mem_singleton.1 hrow
  have hbody := (row_letterOf written).2.symm.trans
    (hin (letterType.fields[1], .json (number lost)) (.tail _ (.head _)))
  have htext : (number written).text ≠ (number lost).text := by decide +kernel
  exact htext (Stored.text.inj hbody)

end Samples

open Samples in
theorem RecordType.find_shows_ada :
    ∃ columns,
      Sql.asked? (.plain (personType.sqlTable noConstants)) (personType.sqlTable noConstants) ["name", "id"] = some columns
      ∧ ∀ y ∈ [personOf "Ada" 1 none], ∃ x, personType.IsStored ada x ∧ Values.Shows columns personType.fields x y
        ∧ ((∀ f ∈ personType.fields, f.isOptional → f.column ∈ columns) →
          (∀ p ∈ Values.scalars personType.fields x, p.2.KeepsDoubles) → y = x) :=
  find_shows (by decide +kernel) (by decide +kernel) rfl (runsTable_storeOf personType)
    (fun c rows => .of_eq (Sql.Table.read_snd _ _ c rows)) rfl
    [.create (personOf "Ada" 1 (some 36))] (Sql.selects_of_runsTable (runsTable_storeOf personType) (by decide +kernel))
    (Prod.ext find_ada rfl)

open Samples in
/-- The person that is found has no age, and the letter another number. -/
theorem RecordType.finds_unstored :
    FindsUnstored (.plain (personType.sqlTable noConstants)) personType noConstants (storeOf personType)
        [.create (personOf "Ada" 1 (some 36))] withoutAge (personOf "Ada" 1 none)
      ∧ FindsUnstored (.plain (letterType.sqlTable noConstants)) letterType noConstants (storeOf letterType)
        [.create (letterOf written)] .all (letterOf lost) where
  left := ⟨⟨person, rfl⟩, by decide +kernel, by decide +kernel, rfl, runsTable_storeOf _, find_ada, not_isStored_ada⟩
  right := ⟨⟨letter, rfl⟩, by decide +kernel, by decide +kernel, rfl, runsTable_storeOf _,
    find_letters, not_isStored_letters⟩

end TypedStorage
