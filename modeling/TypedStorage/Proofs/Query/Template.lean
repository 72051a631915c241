/-
Statements as templates. The text and the arguments of a statement are made apart from each other; here they are made
at once, with each scalar in the place of its question mark (`Statement.template`), and nothing else comes out
(`Statement.compiled_template`). Where no name has a question mark, there is one for each argument and no other
(`Statement.unmarked_template`, `Template.count_sql`).
-/
import TypedStorage.Proofs.Query.Spelling
import TypedStorage.Proofs.Query.Statement

namespace TypedStorage

/-! ## Templates -/

/-- A piece of a statement: text as it stands, or a scalar that a question mark stands for. -/
inductive Part where
  | text (s : String)
  | value (v : Scalar)

namespace Part

def sql : Part → String
  | .text s => s
  | .value _ => "?"

def value? : Part → Option Scalar
  | .text _ => none
  | .value v => some v

/-- The text of the piece has no question mark in it. -/
def Unmarked : Part → Prop
  | .text s => '?' ∉ s.toList
  | .value _ => True

end Part

abbrev Template := List Part

namespace Template

def sql (t : Template) : String := String.join (t.map Part.sql)

def args (t : Template) : List Scalar := t.filterMap Part.value?

def compiled (t : Template) : Compiled := ⟨t.sql, t.args⟩

/-- Templates with a text between any two of them. -/
def separated (sep : String) (ts : List Template) : Template := [Part.text sep].intercalate ts

/-- Scalars with commas between them. -/
def values (vs : List Scalar) : Template := separated ", " (vs.map fun v => [.value v])

@[simp] theorem sql_nil : sql [] = "" := rfl

@[simp] theorem sql_text_cons (s : String) (t : Template) : sql (.text s :: t) = s ++ t.sql := String.join_cons

@[simp] theorem sql_value_cons (v : Scalar) (t : Template) : sql (.value v :: t) = "?" ++ t.sql := String.join_cons

@[simp] theorem sql_append (t u : Template) : sql (t ++ u) = t.sql ++ u.sql := by
  rw [sql, List.map_append, String.join_append]
  rfl

@[simp] theorem args_nil : args [] = [] := rfl

@[simp] theorem args_text_cons (s : String) (t : Template) : args (.text s :: t) = t.args := rfl

@[simp] theorem args_value_cons (v : Scalar) (t : Template) : args (.value v :: t) = v :: t.args := rfl

@[simp] theorem args_append (t u : Template) : args (t ++ u) = t.args ++ u.args := List.filterMap_append

@[simp] theorem sql_separated (sep : String) (ts : List Template) :
    (separated sep ts).sql = sep.intercalate (ts.map sql) := by
  unfold separated
  induction ts with
  | nil => rfl
  | cons t ts ih =>
    cases ts with
    | nil => simp
    | cons u ts =>
      simp only [List.map_cons] at ih
      rw [List.intercalate_cons_cons, sql_append, sql_append, ih, List.map_cons, List.map_cons,
        String.intercalate_cons_cons, sql_text_cons, sql_nil, String.append_empty]

@[simp] theorem args_separated (sep : String) (ts : List Template) : (separated sep ts).args = ts.flatMap args := by
  unfold separated
  induction ts with
  | nil => rfl
  | cons t ts ih =>
    cases ts with
    | nil => simp
    | cons u ts =>
      rw [List.intercalate_cons_cons, args_append, args_append, ih, args_text_cons, args_nil, List.append_nil]
      rfl

@[simp] theorem sql_values (vs : List Scalar) : (values vs).sql = Clause.placeholders vs.length := by
  have hmarks : (vs.map fun v => [Part.value v]).map sql = List.replicate vs.length "?" := by
    rw [List.map_map, List.eq_replicate_iff]
    simp [Function.comp_def]
  rw [values, sql_separated, hmarks]
  rfl

@[simp] theorem args_values (vs : List Scalar) : (values vs).args = vs := by
  simp [values, List.flatMap_map]

/-! ## Question marks -/

def Unmarked (t : Template) : Prop := ∀ p ∈ t, p.Unmarked

/-- There is a question mark for each scalar. -/
theorem count_sql {t : Template} (h : t.Unmarked) : t.sql.toList.count '?' = t.args.length := by
  induction t with
  | nil => rfl
  | cons p t ih =>
    have hp := h p List.mem_cons_self
    have ih := ih fun q hq => h q (List.mem_cons_of_mem _ hq)
    cases p with
    | text s =>
      have hs : s.toList.count '?' = 0 := List.count_eq_zero.2 hp
      rw [sql_text_cons, String.toList_append, List.count_append, ih, hs, Nat.zero_add, args_text_cons]
    | value v =>
      have hmark : "?".toList.count '?' = 1 := by decide
      rw [sql_value_cons, String.toList_append, List.count_append, ih, hmark, args_value_cons, List.length_cons,
        Nat.add_comm]

namespace Unmarked

theorem append {t u : Template} (ht : t.Unmarked) (hu : u.Unmarked) : Unmarked (t ++ u) :=
  List.forall_mem_append.2 ⟨ht, hu⟩

theorem nil : Unmarked [] := List.forall_mem_nil _

theorem text_cons {s : String} {t : Template} (hs : '?' ∉ s.toList) (ht : t.Unmarked) : Unmarked (.text s :: t) :=
  List.forall_mem_cons.2 ⟨hs, ht⟩

theorem value_cons (v : Scalar) {t : Template} (ht : t.Unmarked) : Unmarked (.value v :: t) :=
  List.forall_mem_cons.2 ⟨trivial, ht⟩

theorem separated {sep : String} {ts : List Template} (hsep : '?' ∉ sep.toList) (h : ∀ t ∈ ts, t.Unmarked) :
    (separated sep ts).Unmarked := by
  unfold Template.separated
  induction ts with
  | nil => exact nil
  | cons t ts ih =>
    have ht := h t List.mem_cons_self
    have ih := ih fun u hu => h u (List.mem_cons_of_mem _ hu)
    cases ts with
    | nil => simpa using ht
    | cons u ts =>
      rw [List.intercalate_cons_cons]
      exact (ht.append (text_cons hsep nil)).append ih

theorem values (vs : List Scalar) : (values vs).Unmarked := by
  refine separated (by decide) fun t ht => ?_
  obtain ⟨v, -, rfl⟩ := List.mem_map.1 ht
  exact value_cons v nil

end Unmarked

end Template

/-! ## The template of a statement -/

namespace Clause

/-- A clause that is there has a space in front of it. -/
def spaced (s : String) : String := if s = "" then "" else " " ++ s

theorem join_cons {s : String} (hs : s ≠ "") (clauses : List String) :
    join (s :: clauses) = s ++ String.join (clauses.map spaced) := by
  unfold join
  rw [List.filter_cons_of_pos (by simpa using hs)]
  induction clauses generalizing s with
  | nil => simp
  | cons c clauses ih =>
    by_cases hc : c = ""
    · subst hc
      simpa [spaced] using ih hs
    · rw [List.filter_cons_of_pos (by simpa using hc), String.intercalate_cons_cons, ih hc, List.map_cons,
        String.join_cons, spaced, if_neg hc]
      simp only [String.append_assoc]

end Clause

def Condition.template : Condition → Template
  | .never => [.text Clause.never]
  | .compare field op v => [.text (field ++ " " ++ op.sql ++ " "), .value v]
  | .among field vs => .text (field ++ " IN (") :: (Template.values vs ++ [.text ")"])

/-- All conditions at once, behind a statement; nothing if there are none. -/
def Template.whereAll (conditions : List Condition) : Template :=
  if conditions.isEmpty then [] else .text " WHERE " :: separated " AND " (conditions.map Condition.template)

def Template.insertion (table : String) (columns : List String) (rows : List (List Scalar)) : Template :=
  .text ("INSERT INTO " ++ table ++ " (" ++ Clause.commas columns ++ ") VALUES ") ::
    separated ", " (rows.map fun row => .text "(" :: (values row ++ [.text ")"]))

/-- A statement with each scalar in its place. -/
def Statement.template : Statement → Template
  | .noop => []
  | .select table fields conditions sort limit offset =>
    .text ("SELECT " ++ Clause.commas fields ++ " FROM " ++ table) :: (Template.whereAll conditions ++
      [.text (Clause.spaced (Clause.orderBy sort)), .text (Clause.spaced (Clause.limit limit offset))])
  | .insertDefaults table => [.text ("INSERT INTO " ++ table ++ " DEFAULT VALUES")]
  | .insert table columns rows => Template.insertion table columns rows
  | .update table assignments conditions =>
    .text ("UPDATE " ++ table ++ " SET ") ::
      (Template.separated ", " (assignments.map fun p => [.text (p.1 ++ " = "), .value p.2]) ++
        Template.whereAll conditions)
  | .delete table conditions => .text ("DELETE FROM " ++ table) :: Template.whereAll conditions
  | .upsert table columns values conflict refresh =>
    Template.insertion table columns [values] ++
      [.text (if conflict.isEmpty then " ON CONFLICT DO NOTHING"
        else " ON CONFLICT (" ++ Clause.commas conflict ++ ") " ++ resolution refresh)]

namespace Condition

theorem compiled_template (c : Condition) : c.template.compiled = c.compiled := by
  cases c with
  | never => rfl
  | compare field op v =>
    have hmark : " ?" = " " ++ "?" := by decide
    simp [template, Template.compiled, compiled, hmark, String.append_assoc]
  | among field vs => simp [template, Template.compiled, compiled, String.append_assoc]

theorem sql_template (c : Condition) : c.template.sql = c.compiled.sql := congrArg Compiled.sql c.compiled_template

theorem args_template (c : Condition) : c.template.args = c.compiled.args := congrArg Compiled.args c.compiled_template

end Condition

namespace Template

theorem sql_whereAll (conditions : List Condition) :
    (whereAll conditions).sql = Clause.spaced (Condition.whereAll conditions).sql := by
  unfold whereAll Condition.whereAll
  cases conditions with
  | nil => rfl
  | cons c conditions =>
    simp only [List.isEmpty_cons, Bool.false_eq_true, if_false, sql_text_cons, sql_separated, List.map_map,
      Function.comp_def, Condition.sql_template, Clause.spaced, String.append_eq_empty_iff]
    rw [if_neg (by simp), ← String.append_assoc]
    rfl

theorem args_whereAll (conditions : List Condition) :
    (whereAll conditions).args = (Condition.whereAll conditions).args := by
  unfold whereAll Condition.whereAll
  cases conditions with
  | nil => rfl
  | cons c conditions => simp [List.flatMap_map, Condition.args_template]

theorem compiled_insertion (table : String) (columns : List String) (rows : List (List Scalar)) :
    (insertion table columns rows).compiled = ⟨Statement.insertSql table columns rows, rows.flatten⟩ := by
  have hgroup : (sql ∘ fun row => .text "(" :: (values row ++ [.text ")"])) = Statement.group := by
    funext row
    simp [Statement.group, String.append_assoc]
  simp [insertion, compiled, Statement.insertSql_eq, Clause.commas, hgroup, List.flatMap_map, String.append_assoc]

end Template

namespace Statement

/-- The text and the arguments of a statement are those of its template. -/
theorem compiled_template (s : Statement) : s.template.compiled = s.compiled := by
  cases s with
  | noop => rfl
  | select table fields conditions sort limit offset =>
    simp [template, Template.compiled, compiled, Template.sql_whereAll, Template.args_whereAll,
      Clause.join_cons, String.append_assoc]
  | insertDefaults table => simp [template, Template.compiled, compiled]
  | insert table columns rows => exact Template.compiled_insertion table columns rows
  | update table assignments conditions =>
    have hmark : " = ?" = " = " ++ "?" := by decide
    have hargs : (assignments.flatMap fun p => [p.2]) = assignments.map Prod.snd := List.map_eq_flatMap.symm
    simp [template, Template.compiled, compiled, Template.sql_whereAll, Template.args_whereAll,
      Clause.join_cons, Clause.commas, Function.comp_def, List.flatMap_map, hmark, hargs, String.append_assoc]
  | delete table conditions =>
    simp [template, Template.compiled, compiled, Template.sql_whereAll, Template.args_whereAll,
      Clause.join_cons, String.append_assoc]
  | upsert table columns values conflict refresh =>
    have hinsertion := Template.compiled_insertion table columns [values]
    have hsql := congrArg Compiled.sql hinsertion
    have hargs := congrArg Compiled.args hinsertion
    simp only [Template.compiled] at hsql hargs
    cases hc : conflict.isEmpty <;>
      simp [template, Template.compiled, compiled, hsql, hargs, hc, String.append_assoc]

/-- Only what is not there has no text. -/
theorem sql_eq_empty_iff (s : Statement) : s.compiled.sql = "" ↔ s = .noop := by
  rw [← compiled_template]
  cases s with
  | noop => simp [template, Template.compiled]
  | _ => simp [template, Template.insertion, Template.compiled]

end Statement

/-- Only a query without a statement has no text. -/
theorem Query.isNoop_compile (q : Query) : q.compile.isNoop = true ↔ q.statement = .noop := by
  rw [Compiled.isNoop, decide_eq_true_eq, compile_eq, Statement.sql_eq_empty_iff]

/-! ## Names -/

theorem not_mem_commas {c : Char} (hc : c ∉ ", ".toList) {names : List String} (h : ∀ n ∈ names, c ∉ n.toList) :
    c ∉ (Clause.commas names).toList := by
  unfold Clause.commas
  induction names with
  | nil => simp
  | cons n names ih =>
    have hn := h n List.mem_cons_self
    have ih := ih fun m hm => h m (List.mem_cons_of_mem _ hm)
    cases names with
    | nil => simpa using hn
    | cons m names =>
      rw [String.intercalate_cons_cons, String.toList_append, String.toList_append, List.mem_append, List.mem_append]
      simp only [hn, hc, ih, or_self, not_false_eq_true]

/-- The names in a condition. -/
def Condition.names : Condition → List String
  | .never => []
  | .compare field _ _ | .among field _ => [field]

/-- The names in a statement. -/
def Statement.names : Statement → List String
  | .noop => []
  | .select table fields conditions sort _ _ =>
    table :: (fields ++ (conditions.flatMap Condition.names ++ sort.map SortKey.field))
  | .insertDefaults table => [table]
  | .insert table columns _ => table :: columns
  | .update table assignments conditions => table :: (assignments.map Prod.fst ++ conditions.flatMap Condition.names)
  | .delete table conditions => table :: conditions.flatMap Condition.names
  | .upsert table columns _ conflict refresh => table :: (columns ++ (conflict ++ refresh))

namespace Template.Unmarked

theorem condition {c : Condition} (h : ∀ n ∈ c.names, '?' ∉ n.toList) : c.template.Unmarked := by
  cases c with
  | never => exact text_cons (by decide) nil
  | compare field op v =>
    have hfield := h field List.mem_cons_self
    refine text_cons ?_ (value_cons v nil)
    cases op <;> simpa [Comparison.sql, String.toList_append] using hfield
  | among field vs =>
    have hfield := h field List.mem_cons_self
    exact text_cons (by simpa using hfield) ((values vs).append (text_cons (by decide) nil))

theorem whereAll {conditions : List Condition} (h : ∀ n ∈ conditions.flatMap Condition.names, '?' ∉ n.toList) :
    (whereAll conditions).Unmarked := by
  unfold Template.whereAll
  split
  · exact nil
  · refine text_cons (by decide) (separated (by decide) fun t ht => ?_)
    obtain ⟨c, hc, rfl⟩ := List.mem_map.1 ht
    exact condition fun n hn => h n (List.mem_flatMap.2 ⟨c, hc, hn⟩)

theorem insertion {table : String} {columns : List String} (htable : '?' ∉ table.toList)
    (hcolumns : ∀ n ∈ columns, '?' ∉ n.toList) (rows : List (List Scalar)) :
    (insertion table columns rows).Unmarked := by
  have hcommas := not_mem_commas (c := '?') (by decide) hcolumns
  refine text_cons (by simp [htable, hcommas]) (separated (by decide) fun t ht => ?_)
  obtain ⟨row, -, rfl⟩ := List.mem_map.1 ht
  exact text_cons (by decide) ((values row).append (text_cons (by decide) nil))

end Template.Unmarked

theorem Clause.not_mem_spaced {c : Char} (hc : c ≠ ' ') {s : String} (h : c ∉ s.toList) : c ∉ (spaced s).toList := by
  unfold spaced
  split <;> simp [h, hc]

theorem Clause.not_mem_orderBy {sort : List SortKey} (h : ∀ n ∈ sort.map SortKey.field, '?' ∉ n.toList) :
    '?' ∉ (orderBy sort).toList := by
  unfold orderBy
  split
  · simp
  · have hkeys : ∀ n ∈ sort.map sortKey, '?' ∉ n.toList := by
      intro n hn
      obtain ⟨k, hk, rfl⟩ := List.mem_map.1 hn
      have hfield := h _ (List.mem_map_of_mem hk)
      cases hd : k.direction <;> simp [sortKey, Direction.sql, hd, hfield]
    have hcommas := not_mem_commas (c := '?') (by decide) hkeys
    simp [hcommas]

theorem Clause.not_mem_limit (limit offset : Option UInt64) : '?' ∉ (Clause.limit limit offset).toList := by
  have hnumber (n : Nat) : '?' ∉ Text.natDigits n := fun hn => absurd (Text.isDigit_of_mem_natDigits hn) (by decide)
  unfold Text.natDigits at hnumber
  cases limit <;> cases offset <;> simp [Clause.limit, hnumber]

/-- Where no name has a question mark, only scalars have one. -/
theorem Statement.unmarked_template {s : Statement} (h : ∀ n ∈ s.names, '?' ∉ n.toList) : s.template.Unmarked := by
  open Template.Unmarked in
  cases s with
  | noop => exact nil
  | select table fields conditions sort limit offset =>
    simp only [names, List.forall_mem_cons, List.forall_mem_append] at h
    obtain ⟨htable, hfields, hconditions, hsort⟩ := h
    have hcommas := not_mem_commas (c := '?') (by decide) hfields
    refine text_cons (by simp [htable, hcommas]) ((whereAll hconditions).append (text_cons ?_ (text_cons ?_ nil)))
    · exact Clause.not_mem_spaced (by decide) (Clause.not_mem_orderBy hsort)
    · exact Clause.not_mem_spaced (by decide) (Clause.not_mem_limit limit offset)
  | insertDefaults table =>
    have htable := h table List.mem_cons_self
    exact text_cons (by simpa using htable) nil
  | insert table columns rows =>
    simp only [names, List.forall_mem_cons] at h
    exact insertion h.1 h.2 rows
  | update table assignments conditions =>
    simp only [names, List.forall_mem_cons, List.forall_mem_append] at h
    obtain ⟨htable, hassigned, hconditions⟩ := h
    refine text_cons (by simp [htable]) ((separated (by decide) fun t ht => ?_).append (whereAll hconditions))
    obtain ⟨p, hp, rfl⟩ := List.mem_map.1 ht
    have hname := hassigned _ (List.mem_map_of_mem hp)
    exact text_cons (by simpa using hname) (value_cons p.2 nil)
  | delete table conditions =>
    simp only [names, List.forall_mem_cons] at h
    exact text_cons (by simpa using h.1) (whereAll h.2)
  | upsert table columns values conflict refresh =>
    simp only [names, List.forall_mem_cons, List.forall_mem_append] at h
    obtain ⟨htable, hcolumns, hconflict, hrefresh⟩ := h
    refine (insertion htable hcolumns _).append (text_cons ?_ nil)
    have hassigned : ∀ n ∈ refresh.map fun c => c ++ " = excluded." ++ c, '?' ∉ n.toList := by
      intro n hn
      obtain ⟨c, hc, rfl⟩ := List.mem_map.1 hn
      simp [hrefresh c hc]
    have hnames := not_mem_commas (c := '?') (by decide) hconflict
    have hassignments := not_mem_commas (c := '?') (by decide) hassigned
    unfold resolution
    split
    · decide
    · split <;> simp [hnames, hassignments]

end TypedStorage
