/-
Writes whose maps are still lists of pairs, in which a name may come more than once and its last value counts. What is
compiled does not depend on how a map is listed (`Query.compile_draft`): the columns are the names in the order of their
bytes, each once (`sortedNames`), and every argument is looked up under its name.
-/
import Mathlib.Data.List.Forall2
import TypedStorage.Proofs.Query.Batch

namespace TypedStorage

/-! ## Lists of pairs -/

/-- The lists give every name the same value, if any. -/
def SameMap (ps qs : List (String × Scalar)) : Prop := ∀ c, ps.reverse.lookup c = qs.reverse.lookup c

/-- The value that a name has in the end; null for a name that has none. -/
def lastValue (pairs : List (String × Scalar)) (c : String) : Scalar := (pairs.reverse.lookup c).getD .null

def sortedNames (pairs : List (String × Scalar)) : List String := (pairs.map Prod.fst).dedup.mergeSort

theorem mem_sortedNames {pairs : List (String × Scalar)} {c : String} :
    c ∈ sortedNames pairs ↔ c ∈ pairs.map Prod.fst := by
  rw [sortedNames, List.mem_mergeSort, List.mem_dedup]

theorem sorted_sortedNames (pairs : List (String × Scalar)) : (sortedNames pairs).Pairwise (· < ·) := by
  have hle : (sortedNames pairs).Pairwise (· ≤ ·) := List.pairwise_mergeSort' _ _
  have hne : (sortedNames pairs).Nodup := (List.mergeSort_perm _ _).nodup_iff.2 (List.nodup_dedup _)
  exact (hle.and hne).imp fun h => Std.lt_of_le_of_ne h.1 h.2

/-- A list that strictly increases is its members. -/
theorem eq_sortedNames {columns : List String} (h : columns.Pairwise (· < ·)) {pairs : List (String × Scalar)}
    (hmem : ∀ c, c ∈ columns ↔ c ∈ pairs.map Prod.fst) : columns = sortedNames pairs :=
  h.eq_of_mem_iff (sorted_sortedNames pairs) fun c => (hmem c).trans mem_sortedNames.symm

namespace ValueMap

theorem ofPairs_eq_iff {ps qs : List (String × Scalar)} : KeyMap.ofPairs ps = KeyMap.ofPairs qs ↔ SameMap ps qs := by
  constructor
  · intro h c
    rw [← KeyMap.get?_ofPairs, h, KeyMap.get?_ofPairs]
  · intro h
    refine KeyMap.ext_get? fun c => ?_
    rw [KeyMap.get?_ofPairs, KeyMap.get?_ofPairs, h c]

theorem keys_ofPairs (pairs : List (String × Scalar)) : (KeyMap.ofPairs pairs).keys = sortedNames pairs :=
  eq_sortedNames (KeyMap.sorted _) fun _ => KeyMap.mem_keys_ofPairs

theorem rowIn_ofPairs (pairs : List (String × Scalar)) (columns : List String) :
    rowIn (KeyMap.ofPairs pairs) columns = columns.map (lastValue pairs) := by
  refine List.map_congr_left fun c _ => ?_
  rw [KeyMap.get?_ofPairs, lastValue]

theorem values_ofPairs (pairs : List (String × Scalar)) :
    (KeyMap.ofPairs pairs).values = (sortedNames pairs).map (lastValue pairs) := by
  rw [← rowIn_keys, keys_ofPairs, rowIn_ofPairs]

theorem entries_ofPairs (pairs : List (String × Scalar)) :
    (KeyMap.ofPairs pairs).entries = (sortedNames pairs).map fun c => (c, lastValue pairs c) := by
  rw [entries_eq, keys_ofPairs]
  refine List.map_congr_left fun c _ => ?_
  rw [KeyMap.get?_ofPairs, lastValue]

theorem isEmpty_ofPairs (pairs : List (String × Scalar)) :
    (KeyMap.ofPairs pairs).isEmpty = (sortedNames pairs).isEmpty := by
  rw [Bool.eq_iff_iff, KeyMap.isEmpty_iff, keys_ofPairs, List.isEmpty_iff]

theorem columnUnion_ofPairs (rows : List (List (String × Scalar))) :
    columnUnion (rows.map KeyMap.ofPairs) = sortedNames rows.flatten := by
  refine eq_sortedNames (sorted_columnUnion _) fun c => ?_
  rw [mem_columnUnion]
  simp [List.mem_flatMap, KeyMap.mem_keys_ofPairs]

end ValueMap

/-! ## Drafts -/

/-- An action that writes, with the pairs that its maps are made of. -/
inductive Draft where
  | insert (pairs : List (String × Scalar))
  | insertMany (rows : List (List (String × Scalar)))
  | update (pairs : List (String × Scalar)) (filters : List Filter)
  | upsert (pairs : List (String × Scalar)) (conflict : List String) (refresh : Option (List String))

namespace Draft

def action : Draft → Action
  | .insert pairs => .insert (.ofPairs pairs)
  | .insertMany rows => .insertMany (rows.map .ofPairs)
  | .update pairs filters => .update (.ofPairs pairs) filters
  | .upsert pairs conflict refresh => .upsert (.ofPairs pairs) conflict refresh

/-- The drafts differ only in how they list their maps. -/
inductive Same : Draft → Draft → Prop
  | insert {ps qs : List (String × Scalar)} (h : SameMap ps qs) : Same (.insert ps) (.insert qs)
  | insertMany {rows rows' : List (List (String × Scalar))} (h : List.Forall₂ SameMap rows rows') :
    Same (.insertMany rows) (.insertMany rows')
  | update {ps qs : List (String × Scalar)} (h : SameMap ps qs) (filters : List Filter) :
    Same (.update ps filters) (.update qs filters)
  | upsert {ps qs : List (String × Scalar)} (h : SameMap ps qs) (conflict : List String)
    (refresh : Option (List String)) : Same (.upsert ps conflict refresh) (.upsert qs conflict refresh)

/-- All pairs, in the order in which they are listed. -/
def pairs : Draft → List (String × Scalar)
  | .insert pairs | .update pairs _ | .upsert pairs _ _ => pairs
  | .insertMany rows => rows.flatten

def columns (d : Draft) : List String := sortedNames d.pairs

/-- What a draft asks of the engine, with every value looked up under the name of its column. -/
def statement (table : String) (d : Draft) : Statement :=
  match d with
  | .insert pairs =>
    if d.columns.isEmpty then .insertDefaults table else .insert table d.columns [d.columns.map (lastValue pairs)]
  | .insertMany rows =>
    if d.columns.isEmpty then .noop else .insert table d.columns (rows.map fun pairs => d.columns.map (lastValue pairs))
  | .update pairs filters =>
    if d.columns.isEmpty then .noop
    else .update table (d.columns.map fun c => (c, lastValue pairs c)) (filters.map Filter.condition)
  | .upsert pairs conflict refresh =>
    if d.columns.isEmpty then .noop
    else .upsert table d.columns (d.columns.map (lastValue pairs)) conflict
      (if conflict.isEmpty then [] else refresh.getD (d.columns.filter fun c => !conflict.contains c))

theorem action_congr {d e : Draft} (h : d.Same e) : d.action = e.action := by
  cases h with
  | insert h | update h _ | upsert h _ _ => rw [action, action, ValueMap.ofPairs_eq_iff.2 h]
  | insertMany h =>
    rw [action, action]
    congr 1
    induction h with
    | nil => rfl
    | cons h _ ih => rw [List.map_cons, List.map_cons, ValueMap.ofPairs_eq_iff.2 h, ih]

theorem columns_action (d : Draft) : d.action.columns = d.columns := by
  cases d with
  | insertMany rows => exact ValueMap.columnUnion_ofPairs rows
  | insert pairs | update pairs _ | upsert pairs _ _ => exact (columnUnion_singleton _).trans (ValueMap.keys_ofPairs pairs)

theorem statement_action (table : String) (d : Draft) : (Query.mk table d.action).statement = d.statement table := by
  cases d with
  | insert pairs =>
    simp only [Query.statement, action, ValueMap.isEmpty_ofPairs, ValueMap.keys_ofPairs, ValueMap.values_ofPairs]
    rfl
  | insertMany rows =>
    simp only [Query.statement, action, ValueMap.columnUnion_ofPairs, List.map_map, Function.comp_def,
      ValueMap.rowIn_ofPairs]
    rfl
  | update pairs filters =>
    simp only [Query.statement, action, ValueMap.isEmpty_ofPairs, ValueMap.entries_ofPairs]
    rfl
  | upsert pairs conflict refresh =>
    simp only [Query.statement, action, ValueMap.isEmpty_ofPairs, ValueMap.keys_ofPairs, ValueMap.values_ofPairs]
    cases refresh with
    | none => rw [Compiled.refreshed, ValueMap.keys_ofPairs]; rfl
    | some columns => rfl

/-- The drafts compile to one text with one list of arguments. -/
structure CompileAlike (table : String) (d e : Draft) : Prop where
  compile : (Query.mk table d.action).compile = (Query.mk table e.action).compile
  /-- It is the text of what a draft asks, in which every value is looked up under the name of its column. -/
  statement : (Query.mk table d.action).compile = (d.statement table).compiled
  columns : d.columns = e.columns
  /-- The columns are the names of the pairs, in the order of their bytes. -/
  mem_columns : ∀ c, c ∈ d.columns ↔ c ∈ d.pairs.map Prod.fst
  sorted : d.columns.Pairwise fun c c' => Text.utf8Bytes c < Text.utf8Bytes c'

end Draft

/-- **What is compiled does not depend on how maps are listed.** -/
theorem Query.compile_draft (table : String) {d e : Draft} (h : d.Same e) : d.CompileAlike table e where
  compile := by rw [Draft.action_congr h]
  statement := by rw [compile_eq, Draft.statement_action]
  columns := by rw [← Draft.columns_action, Draft.action_congr h, Draft.columns_action]
  mem_columns _ := mem_sortedNames
  sorted := (sorted_sortedNames d.pairs).imp Text.utf8Bytes_lt

/-- Names that come twice, in another order, and two rows of which one has no names. -/
theorem Query.compile_draft_repeated :
    let d := Draft.upsert [("é", .integer 1), ("z", .null), ("é", .integer 2)] ["z"] (some ["é", "z"])
    let e := Draft.upsert [("z", .null), ("z", .null), ("é", .integer 2)] ["z"] (some ["é", "z"])
    let rows := Draft.insertMany [[("b", .integer 1), ("a", .text "x"), ("b", .integer 2)], []]
    let rows' := Draft.insertMany [[("b", .integer 2), ("a", .text "x")], []]
    d.Same e ∧ d.CompileAlike "t" e ∧ rows.Same rows' ∧ rows.CompileAlike "t" rows' := by
  intro d e rows rows'
  have hpairs : SameMap d.pairs e.pairs := ValueMap.ofPairs_eq_iff.1 (KeyMap.ext rfl)
  have hd : d.Same e := .upsert hpairs _ _
  have hrow : SameMap [("b", .integer 1), ("a", .text "x"), ("b", .integer 2)] [("b", .integer 2), ("a", .text "x")] :=
    ValueMap.ofPairs_eq_iff.1 (KeyMap.ext rfl)
  have hrows : rows.Same rows' := .insertMany (.cons hrow (.cons (fun _ => rfl) .nil))
  exact ⟨hd, compile_draft "t" hd, hrows, compile_draft "t" hrows⟩

end TypedStorage
