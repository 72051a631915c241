/-
What the conditions of a query mean to a row. Their text is read from left to right, each question mark taking the
next argument, and comes to what its comparisons come to; of these nothing is known but that each is true, false or,
as with null, neither (`Interpretation`). It is true of exactly the rows on which every filter holds
(`Filter.truth?_whereAll`), and a filter that holds on no row makes it false of all. So a statement reaches no row that
one of its filters excludes (`Query.reaches_iff`).
-/
import TypedStorage.Proofs.Query.Placeholders

namespace TypedStorage

/-! ## Truth -/

/-- What a comparison comes to; one with null is neither true nor false. -/
inductive Truth where
  | yes | no | unknown
  deriving DecidableEq

namespace Truth

/-- Both at once: false as soon as one is. -/
def and : Truth → Truth → Truth
  | .no, _ | .unknown, .no => .no
  | .unknown, _ => .unknown
  | .yes, b => b

theorem and_eq_yes_iff {a b : Truth} : a.and b = .yes ↔ a = .yes ∧ b = .yes := by
  cases a <;> cases b <;> decide

theorem and_no (a : Truth) : a.and .no = .no := by
  cases a <;> rfl

end Truth

/-- Comparisons with what a row has in a field. -/
structure Interpretation (γ : Type) where
  compares : γ → Comparison → Scalar → Truth
  isAmong : γ → List Scalar → Truth

section

variable {γ : Type} (I : Interpretation γ) (row : String → γ)

/-- The row has in the field what the filter asks for, in the shape that its operator takes. -/
def Filter.Holds (f : Filter) : Prop :=
  match f.operand with
  | .single v => ∃ op, f.operator.comparison? = some op ∧ I.compares (row f.field) op v = .yes
  | .multiple vs => f.operator = .inSet ∧ vs ≠ [] ∧ I.isAmong (row f.field) vs = .yes

def Condition.truth : Condition → Truth
  | .never => .no
  | .compare field op v => I.compares (row field) op v
  | .among field vs => I.isAmong (row field) vs

/-- All conditions at once, one after the other. -/
def Condition.conjunction (conditions : List Condition) : Truth :=
  conditions.foldl (fun t c => t.and (c.truth I row)) .yes

/-- What a clause of conditions comes to, if the text is one. -/
def Compiled.truth? (c : Compiled) : Option Truth := do
  let items ← Item.bind? (Token.lex c.sql) c.args
  let (conditions, rest) ← ItemReader.conditions? items
  if rest.isEmpty then some (Condition.conjunction I row conditions) else none

end

/-! ## Statements that look for rows -/

/-- The conditions on the rows that a statement is about; one that only adds rows has none. -/
def Statement.conditions? : Statement → Option (List Condition)
  | .select _ _ conditions _ _ _ | .update _ _ conditions | .delete _ conditions => some conditions
  | .noop | .insertDefaults _ | .insert _ _ _ | .upsert _ _ _ _ _ => none

/-- The text and the arguments say a statement that is about the row. -/
def Compiled.Reaches {γ : Type} (I : Interpretation γ) (row : String → γ) (c : Compiled) : Prop :=
  ∃ conditions, c.statement?.bind Statement.conditions? = some conditions
    ∧ Condition.conjunction I row conditions = .yes

/-- The action is about rows that are there. -/
def Action.isTargeted : Action → Bool
  | .select _ | .delete _ | .deleteMany _ _ => true
  | .update values _ => !values.isEmpty
  | .insert _ | .insertMany _ | .upsert _ _ _ => false

/-- The query with one more filter, where it takes any. -/
def Query.narrowed (q : Query) (f : Filter) : Query where
  table := q.table
  action := match q.action with
    | .select s => .select (s.step (.filter f))
    | .update values filters => .update values (filters ++ [f])
    | .delete filters => .delete (filters ++ [f])
    | a => a

/-! ## Conjunctions -/

section

variable {γ : Type} {I : Interpretation γ} {row : String → γ}

theorem Condition.foldl_and_eq_yes_iff {conditions : List Condition} {t : Truth} :
    conditions.foldl (fun t c => t.and (c.truth I row)) t = .yes
      ↔ t = .yes ∧ ∀ c ∈ conditions, c.truth I row = .yes := by
  induction conditions generalizing t with
  | nil => simp
  | cons c conditions ih => rw [List.foldl_cons, ih, Truth.and_eq_yes_iff, List.forall_mem_cons, and_assoc]

theorem Condition.conjunction_eq_yes_iff {conditions : List Condition} :
    conjunction I row conditions = .yes ↔ ∀ c ∈ conditions, c.truth I row = .yes :=
  foldl_and_eq_yes_iff.trans (and_iff_right rfl)

/-- What is false stays false, whatever comes after it. -/
theorem Condition.foldl_and_no (conditions : List Condition) :
    conditions.foldl (fun t c => t.and (c.truth I row)) Truth.no = .no := by
  induction conditions with
  | nil => rfl
  | cons c conditions ih => exact ih

theorem Condition.conjunction_eq_no {conditions : List Condition} (h : .never ∈ conditions) :
    conjunction I row conditions = .no := by
  obtain ⟨before, after, rfl⟩ := List.append_of_mem h
  rw [conjunction, List.foldl_append, List.foldl_cons, truth, Truth.and_no]
  exact foldl_and_no after

/-- The condition of a filter is true where the filter holds. -/
theorem Filter.truth_condition_eq_yes_iff {f : Filter} : f.condition.truth I row = .yes ↔ f.Holds I row := by
  obtain ⟨field, operator, operand⟩ := f
  cases operator <;> rcases operand with v | _ | ⟨v, vs⟩ <;>
    simp [Filter.condition, Operator.comparison?, Condition.truth, Filter.Holds]

theorem Filter.forall_holds_iff {filters : List Filter} :
    Condition.conjunction I row (filters.map condition) = .yes ↔ ∀ f ∈ filters, f.Holds I row := by
  rw [Condition.conjunction_eq_yes_iff, List.forall_mem_map]
  exact forall₂_congr fun _ _ => truth_condition_eq_yes_iff

/-- A filter that holds on no row, whatever the comparisons come to. -/
def Filter.IsHopeless (f : Filter) : Prop := f.isWellFormed = false ∨ f.operand = .multiple []

theorem Filter.IsHopeless.condition_eq {f : Filter} (h : f.IsHopeless) : f.condition = .never := by
  obtain ⟨field, operator, operand⟩ := f
  cases operator <;> rcases operand with v | _ | ⟨v, vs⟩ <;>
    simp_all [IsHopeless, isWellFormed, Operator.takesSeveral, Filter.condition, Operator.comparison?]

/-! ## The clause of some filters -/

open ItemReader in
/-- The clause is read to its end, and comes to the conjunction of its filters. -/
theorem Filter.truth?_whereAll {filters : List Filter} (h : ∀ f ∈ filters, Identifier.isValid f.field) :
    (Clause.whereAll filters).truth? I row = some (Condition.conjunction I row (filters.map condition)) := by
  have hwords : ∀ c ∈ filters.map condition, c.WellFormed :=
    wellFormed_conditions (List.forall_mem_map.2 fun f hf => isWord_of_isValid (h f hf))
  have hspells : Item.bind? _ _ = some _ := spells_conditions hwords
  have hread := conditions?_ofConditions hwords (.nil _) (.nil _)
  rw [List.append_nil] at hread
  rw [← Condition.whereAll_map_condition, Compiled.truth?, hspells]
  simp only [Option.bind_eq_bind, Option.bind_some, hread, List.isEmpty_nil, if_true]

theorem Clause.sql_whereAll_eq_empty_iff {filters : List Filter} : (whereAll filters).sql = "" ↔ filters = [] := by
  cases filters <;> simp [whereAll]

/-! ## The rows that a query reaches -/

theorem Query.conditions?_statement (q : Query) : q.statement.conditions? =
    if q.action.isTargeted then some (q.action.filters.map Filter.condition) else none := by
  obtain ⟨table, action⟩ := q
  cases action with
  | select _ | delete _ | deleteMany _ _ => rfl
  | insert values | upsert values _ _ =>
    cases h : values.isEmpty <;> simp [statement, h, Statement.conditions?, Action.isTargeted]
  | update values filters =>
    cases h : values.isEmpty <;> simp [statement, h, Statement.conditions?, Action.isTargeted, Action.filters]
  | insertMany rows =>
    cases h : (columnUnion rows).isEmpty <;> simp [statement, h, Statement.conditions?, Action.isTargeted]

/-- **A query reaches the rows on which all its filters hold**, if it is about any. -/
theorem Query.reaches_iff {q : Query} (h : q.NamesValid) :
    q.compile.Reaches I row ↔ q.action.isTargeted ∧ ∀ f ∈ q.action.filters, f.Holds I row := by
  rw [Compiled.Reaches, statement?_compile h, Option.bind_some, conditions?_statement]
  cases q.action.isTargeted with
  | true => simp [Filter.forall_holds_iff]
  | false => simp

theorem Query.namesValid_narrowed {q : Query} (h : q.NamesValid) {f : Filter} (hf : Identifier.isValid f.field) :
    (q.narrowed f).NamesValid := by
  have hnames : ∀ n ∈ (q.narrowed f).names, n ∈ q.names ∨ n = f.field := by
    intro n hn
    obtain ⟨table, action⟩ := q
    cases action with
    | select _ | update _ _ | delete _ =>
      simp only [narrowed, names, Selection.step, List.map_append, List.map_cons, List.map_nil, List.mem_cons,
        List.mem_append, List.not_mem_nil, or_false] at hn ⊢
      tauto
    | insert _ | insertMany _ | deleteMany _ _ | upsert _ _ _ => exact .inl hn
  intro n hn
  rcases hnames n hn with hn | rfl
  · exact h n hn
  · exact hf

theorem Query.isTargeted_narrowed (q : Query) (f : Filter) :
    (q.narrowed f).action.isTargeted = q.action.isTargeted := by
  obtain ⟨table, action⟩ := q
  cases action <;> rfl

theorem Query.filters_subset_narrowed (q : Query) (f : Filter) : q.action.filters ⊆ (q.narrowed f).action.filters := by
  obtain ⟨table, action⟩ := q
  cases action with
  | select s => exact List.subset_append_left _ _
  | update _ filters | delete filters => exact List.subset_append_left _ _
  | insert _ | insertMany _ | deleteMany _ _ | upsert _ _ _ => exact List.Subset.refl _

end

/-! ## All of it -/

/-- The clause of these filters means all of them at once. -/
structure Clause.MeansAll (filters : List Filter) : Prop where
  truth : ∀ {γ : Type} (I : Interpretation γ) (row : String → γ),
    ∃ t, (whereAll filters).truth? I row = some t ∧ (t = .yes ↔ ∀ f ∈ filters, f.Holds I row)
  /-- One filter that holds on no row makes it false, not only unknown. -/
  hopeless : (∃ f ∈ filters, f.IsHopeless) → ∀ {γ : Type} (I : Interpretation γ) (row : String → γ),
    (whereAll filters).truth? I row = some .no
  /-- There is no clause only where there is no filter. -/
  absent : (whereAll filters).sql = "" ↔ filters = []
  /-- The queries with these filters reach the rows on which they all hold. -/
  reaches : ∀ q : Query, q.NamesValid → q.action.filters = filters → ∀ {γ : Type} (I : Interpretation γ)
    (row : String → γ), q.compile.Reaches I row ↔ q.action.isTargeted ∧ ∀ f ∈ filters, f.Holds I row
  /-- With one more filter they reach no other rows. -/
  narrows : ∀ q : Query, q.NamesValid → q.action.filters = filters → ∀ f : Filter, Identifier.isValid f.field →
    ∀ {γ : Type} (I : Interpretation γ) (row : String → γ),
      (q.narrowed f).compile.Reaches I row → q.compile.Reaches I row

/-- **The conditions of a query mean that all its filters hold**, whatever the comparisons come to. -/
theorem Clause.meansAll {filters : List Filter} (h : ∀ f ∈ filters, Identifier.isValid f.field) :
    MeansAll filters where
  truth I row := ⟨_, Filter.truth?_whereAll h, Filter.forall_holds_iff⟩
  hopeless := by
    rintro ⟨f, hf, hhopeless⟩ γ I row
    have hnever : Condition.never ∈ filters.map Filter.condition := List.mem_map.2 ⟨f, hf, hhopeless.condition_eq⟩
    rw [Filter.truth?_whereAll h, Condition.conjunction_eq_no hnever]
  absent := sql_whereAll_eq_empty_iff
  reaches := by
    rintro q hq rfl γ I row
    exact Query.reaches_iff hq
  narrows := by
    rintro q hq rfl f hf γ I row hreaches
    rw [Query.reaches_iff (Query.namesValid_narrowed hq hf), Query.isTargeted_narrowed] at hreaches
    rw [Query.reaches_iff hq]
    exact ⟨hreaches.1, fun g hg => hreaches.2 g (q.filters_subset_narrowed f hg)⟩

/-- A comparison, a membership that asks for null too, an operator without its set and a membership in nothing. -/
theorem Clause.meansAll_notes :
    let filters : List Filter := [.like "title" "%a?%", .inSet "owner" [.integer 7, .null],
      ⟨"pinned", .inSet, .single (.boolean true)⟩, .inSet "id" []]
    (∀ f ∈ filters, Identifier.isValid f.field) ∧ MeansAll filters := by
  have h : ∀ f ∈ ([.like "title" "%a?%", .inSet "owner" [.integer 7, .null],
      ⟨"pinned", .inSet, .single (.boolean true)⟩, .inSet "id" []] : List Filter), Identifier.isValid f.field := by
    decide
  exact ⟨h, meansAll h⟩

end TypedStorage
