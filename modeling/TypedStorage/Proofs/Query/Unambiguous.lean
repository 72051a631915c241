/-
Compiled queries are unambiguous (`compile_eq_iff`): two queries whose names are all valid compile to the same text
with the same arguments exactly when they mean the same. A statement is even read back from what it is compiled to
(`statement?_compile`), by a reader that never has to look back: each list ends at a word or a mark that none of
its parts starts with, and that is all that `Avoids` keeps track of.

That the names are valid is needed. A table called `t WHERE 1=0` makes a selection of everything look like a
selection of nothing.
-/
import TypedStorage.Proofs.KeyMap
import TypedStorage.Proofs.Query.Spelling

namespace TypedStorage

open Token Item ItemReader

/-! ## Fixed texts -/

/-- The items do not start with this token. -/
def Avoids (t : Token) (is : List Item) : Prop := is.head? ≠ some (.token t)

theorem Avoids.nil (t : Token) : Avoids t [] := by simp [Avoids]

theorem Avoids.fixed {t : Token} {s : String} (h : lex s ≠ [] ∧ (lex s).head? ≠ some t) (is : List Item) :
    Avoids t (fixed s ++ is) := by
  obtain ⟨u, us, hs⟩ := List.exists_cons_of_ne_nil h.1
  rw [Avoids, Item.fixed, hs]
  simpa [hs] using h.2

theorem afterTokens?_map (ts : List Token) (is : List Item) : afterTokens? ts (ts.map .token ++ is) = some is := by
  induction ts with
  | nil => rfl
  | cons t ts ih =>
    rw [List.map_cons, List.cons_append, afterTokens?, if_pos rfl]
    exact ih

theorem after?_fixed (s : String) (is : List Item) : after? s (fixed s ++ is) = some is := afterTokens?_map _ is

theorem after?_eq_none {t : Token} {s : String} {is : List Item} (hs : (lex s).head? = some t) (h : Avoids t is) :
    after? s is = none := by
  obtain ⟨ts, hts⟩ := List.head?_eq_some_iff.1 hs
  rw [after?, hts]
  cases is with
  | nil => rfl
  | cons i is =>
    cases i with
    | value v => rfl
    | token u =>
      rw [afterTokens?, if_neg]
      rintro rfl
      exact h rfl

/-- One fixed text is not taken for another that starts otherwise. -/
theorem after?_fixed_other {s s' : String} (h : lex s ≠ [] ∧ lex s' ≠ [] ∧ (lex s').head? ≠ (lex s).head?)
    (is : List Item) :
    after? s (fixed s' ++ is) = none := by
  obtain ⟨t, ts, hs⟩ := List.exists_cons_of_ne_nil h.1
  refine after?_eq_none (t := t) (by rw [hs]; rfl) (.fixed ⟨h.2.1, ?_⟩ is)
  rw [hs] at h
  exact h.2.2

theorem fixed_word {w : String} (h : IsWord w) (is : List Item) : fixed w ++ is = .token (.word w) :: is := by
  rw [fixed, lex_word h]
  rfl

/-! ## Lists -/

theorem length_listed {sep : String} (hs : lex sep ≠ []) (parts : List (List Item)) :
    parts.length ≤ (listed sep parts).length + 1 := by
  induction parts with
  | nil => simp
  | cons p parts ih =>
    cases parts with
    | nil => simp
    | cons q parts =>
      have := List.length_pos_iff.2 hs
      simp only [listed, List.intercalate_cons_cons, List.length_append, List.length_cons, fixed, List.length_map] at ih ⊢
      omega

/-- A list is read to its end by a reader that needs to know only this much of what follows a part. -/
theorem listFrom?_listed {α : Type} {sep : String} {read? : ItemReader α} {items : α → List Item} {xs : List α}
    {Follows : List Item → Prop} (hne : xs ≠ [])
    (h : ∀ x ∈ xs, ∀ rest, Follows rest → read? (items x ++ rest) = some (x, rest))
    (hsep : ∀ rest, Follows (fixed sep ++ rest)) {rest : List Item} (hfollows : Follows rest)
    (hrest : after? sep rest = none) {fuel : Nat} (hfuel : xs.length ≤ fuel) :
    listFrom? sep read? fuel (listed sep (xs.map items) ++ rest) = some (xs, rest) := by
  induction xs generalizing fuel with
  | nil => exact absurd rfl hne
  | cons x xs ih =>
    have hx := h x List.mem_cons_self
    obtain ⟨fuel, rfl⟩ : ∃ n, fuel = n + 1 := ⟨fuel - 1, by simp at hfuel; omega⟩
    cases xs with
    | nil =>
      simp [listed, listFrom?, hx rest hfollows, hrest]
    | cons y ys =>
      have ih := @ih (by simp) (fun z hz => h z (List.mem_cons_of_mem _ hz)) fuel (by simpa using hfuel)
      have hlisted : listed sep ((x :: y :: ys).map items) ++ rest =
          items x ++ (fixed sep ++ (listed sep ((y :: ys).map items) ++ rest)) := by
        simp only [listed, List.map_cons, List.intercalate_cons_cons, List.append_assoc]
      rw [hlisted, listFrom?, hx _ (hsep _)]
      simp only [Option.bind_eq_bind, Option.bind_some, after?_fixed, ih, Option.pure_def]

theorem list?_listed_follows {α : Type} {sep : String} (hs : lex sep ≠ []) {read? : ItemReader α}
    {items : α → List Item} {xs : List α} {Follows : List Item → Prop} (hne : xs ≠ [])
    (h : ∀ x ∈ xs, ∀ rest, Follows rest → read? (items x ++ rest) = some (x, rest))
    (hsep : ∀ rest, Follows (fixed sep ++ rest)) {rest : List Item} (hfollows : Follows rest)
    (hrest : after? sep rest = none) : list? sep read? (listed sep (xs.map items) ++ rest) = some (xs, rest) := by
  refine listFrom?_listed hne h hsep hfollows hrest ?_
  have := length_listed hs (xs.map items)
  rw [List.length_map] at this
  rw [List.length_append]
  omega

theorem list?_listed {α : Type} {sep : String} (hs : lex sep ≠ []) {read? : ItemReader α} {items : α → List Item}
    {xs : List α} (hne : xs ≠ []) (h : ∀ x ∈ xs, ∀ rest, read? (items x ++ rest) = some (x, rest)) {rest : List Item}
    (hrest : after? sep rest = none) : list? sep read? (listed sep (xs.map items) ++ rest) = some (xs, rest) :=
  @list?_listed_follows _ _ hs _ _ _ (fun _ => True) hne (fun x hx rest _ => h x hx rest) (fun _ => trivial) rest trivial
    hrest

theorem bracketed?_follows {α : Type} {read? : ItemReader α} {items : α → List Item} {xs : List α}
    {Follows : List Item → Prop} (hne : xs ≠ [])
    (h : ∀ x ∈ xs, ∀ rest, Follows rest → read? (items x ++ rest) = some (x, rest))
    (hcomma : ∀ rest, Follows (fixed "," ++ rest)) (hclose : ∀ rest, Follows (fixed ")" ++ rest)) (rest : List Item) :
    bracketed? read? (bracketed (xs.map items) ++ rest) = some (xs, rest) := by
  have hlist := list?_listed_follows (by decide) hne h hcomma (hclose rest) (after?_fixed_other (by decide) rest)
  simp only [bracketed?, bracketed, List.append_assoc, after?_fixed, Option.bind_eq_bind, Option.bind_some, hlist,
    Option.pure_def]

theorem bracketed?_bracketed {α : Type} {read? : ItemReader α} {items : α → List Item} {xs : List α} (hne : xs ≠ [])
    (h : ∀ x ∈ xs, ∀ rest, read? (items x ++ rest) = some (x, rest)) (rest : List Item) :
    bracketed? read? (bracketed (xs.map items) ++ rest) = some (xs, rest) :=
  @bracketed?_follows _ _ _ _ (fun _ => True) hne (fun x hx rest _ => h x hx rest) (fun _ => trivial) (fun _ => trivial)
    rest

/-! ## Parts -/

theorem name?_fixed {w : String} (h : IsWord w) (rest : List Item) : name? (fixed w ++ rest) = some (w, rest) := by
  rw [fixed_word h]
  rfl

theorem field?_fixed {w : String} (h : IsField w) (rest : List Item) : field? (fixed w ++ rest) = some (w, rest) := by
  rcases h with rfl | h
  · rfl
  · rw [fixed_word h]
    rfl

theorem values?_ofValues {vs : List Scalar} (h : vs ≠ []) (rest : List Item) :
    bracketed? value? (ofValues vs ++ rest) = some (vs, rest) :=
  bracketed?_bracketed h (fun _ _ _ => rfl) rest

theorem number?_ofNumber (n : UInt64) (rest : List Item) : number? (ofNumber n ++ rest) = some (n, rest) := by
  have hlt := n.toNat_lt
  rw [ofNumber, fixed_word (isWord_number _), number?, toList_number, Text.readNat?_natDigits, Option.bind_some,
    if_pos hlt, UInt64.ofNat_toNat]

theorem comparison?_fixed (op : Comparison) (v : Scalar) (rest : List Item) :
    comparison? (fixed op.sql ++ .value v :: rest) = some (op, .value v :: rest) := by
  cases op <;> rfl

theorem condition?_ofCondition {c : Condition} (h : c.WellFormed) (rest : List Item) :
    condition? (ofCondition c ++ rest) = some (c, rest) := by
  cases c with
  | never => rfl
  | compare field op v =>
    have hnever : after? "1=0" (fixed field ++ (fixed op.sql ++ .value v :: rest)) = none := by
      rw [fixed_word h]
      by_cases h1 : field = "1"
      · subst h1
        cases op <;> rfl
      · have : Token.word "1" ≠ .word field := fun he => h1 (Token.word.inj he).symm
        exact if_neg this
    have hin : after? "IN" (fixed op.sql ++ .value v :: rest) = none := by cases op <;> rfl
    simp only [ofCondition, List.append_assoc, List.singleton_append, condition?, hnever, name?_fixed h, hin,
      comparison?_fixed, Option.bind_eq_bind, Option.bind_some, value?, Option.pure_def]
  | among field vs =>
    have hnever : after? "1=0" (fixed field ++ (fixed "IN" ++ (ofValues vs ++ rest))) = none := by
      rw [fixed_word h.1]
      by_cases h1 : field = "1"
      · subst h1
        rfl
      · have : Token.word "1" ≠ .word field := fun he => h1 (Token.word.inj he).symm
        exact if_neg this
    simp only [ofCondition, List.append_assoc, condition?, hnever, name?_fixed h.1, after?_fixed,
      values?_ofValues h.2, Option.bind_eq_bind, Option.bind_some, Option.pure_def]

theorem sortKey?_ofSortKey {k : SortKey} (h : IsWord k.field) (rest : List Item) :
    sortKey? (ofSortKey k ++ rest) = some (k, rest) := by
  obtain ⟨field, direction⟩ := k
  rw [ofSortKey, List.append_assoc, sortKey?]
  simp only [name?_fixed h, Option.bind_eq_bind, Option.bind_some]
  cases direction <;> rfl

theorem assignment?_ofAssignment {p : String × Scalar} (h : IsWord p.1) (rest : List Item) :
    assignment? (ofAssignment p ++ rest) = some (p, rest) := by
  simp only [ofAssignment, List.append_assoc, assignment?, name?_fixed h, Option.bind_eq_bind, Option.bind_some,
    after?_fixed, List.singleton_append, value?, Option.pure_def]

theorem refresh?_ofRefresh {c : String} (h : IsWord c) (rest : List Item) :
    refresh? (ofRefresh c ++ rest) = some (c, rest) := by
  simp only [ofRefresh, List.append_assoc, refresh?, name?_fixed h, Option.bind_eq_bind, Option.bind_some, after?_fixed,
    if_true, Option.pure_def]

/-! ## Clauses -/

theorem optional?_none {α : Type} {s : String} {read? : ItemReader (List α)} {is : List Item} (h : after? s is = none) :
    optional? s read? is = some ([], is) := by
  rw [optional?, h]

/-- A list with a text in front of it that is left out with the list. -/
theorem optional?_listed {α : Type} {s sep : String} (hs : lex sep ≠ []) {read? : ItemReader α} {items : α → List Item}
    {xs : List α} (h : ∀ x ∈ xs, ∀ rest, read? (items x ++ rest) = some (x, rest)) {rest : List Item}
    (hstart : after? s rest = none) (hsep : after? sep rest = none) :
    optional? s (list? sep read?) ((if xs.isEmpty then [] else fixed s ++ listed sep (xs.map items)) ++ rest)
      = some (xs, rest) := by
  cases xs with
  | nil => exact optional?_none hstart
  | cons x xs =>
    rw [List.isEmpty_cons, if_neg Bool.false_ne_true, List.append_assoc, optional?, after?_fixed]
    exact list?_listed hs (List.cons_ne_nil x xs) h hsep

theorem conditions?_ofConditions {conditions : List Condition} (h : ∀ c ∈ conditions, c.WellFormed) {rest : List Item}
    (hwhere : Avoids (.word "WHERE") rest) (hand : Avoids (.word "AND") rest) :
    conditions? (ofConditions conditions ++ rest) = some (conditions, rest) :=
  optional?_listed (by decide) (fun c hc => condition?_ofCondition (h c hc)) (after?_eq_none rfl hwhere)
    (after?_eq_none rfl hand)

theorem sort?_ofSort {sort : List SortKey} (h : ∀ k ∈ sort, IsWord k.field) {rest : List Item}
    (horder : Avoids (.word "ORDER") rest) (hcomma : Avoids (.mark ',') rest) :
    sort? (ofSort sort ++ rest) = some (sort, rest) :=
  optional?_listed (by decide) (fun k hk => sortKey?_ofSortKey (h k hk)) (after?_eq_none rfl horder)
    (after?_eq_none rfl hcomma)

theorem limits?_ofLimits (limit offset : Option UInt64) :
    limits? (ofLimits limit offset) = some ((limit, offset), []) := by
  have hnumber (n : UInt64) : number? (ofNumber n) = some (n, []) := by simpa using number?_ofNumber n []
  have hminus (n : UInt64) (is : List Item) : after? "LIMIT -1 OFFSET" (fixed "LIMIT" ++ (ofNumber n ++ is)) = none := by
    rw [ofNumber, fixed_word (isWord_number _)]
    rfl
  cases limit with
  | none =>
    cases offset with
    | none => rfl
    | some o =>
      simp only [ofLimits, limits?, after?_fixed, hnumber, Option.bind_eq_bind, Option.bind_some, Option.pure_def]
  | some l =>
    cases offset with
    | none =>
      have hend : after? "OFFSET" [] = none := rfl
      have hl := hminus l []
      rw [List.append_nil] at hl
      simp only [ofLimits, limits?, hl, after?_fixed, hnumber, hend, Option.bind_eq_bind, Option.bind_some, Option.pure_def]
    | some o =>
      simp only [ofLimits, limits?, hminus, after?_fixed, number?_ofNumber, hnumber, Option.bind_eq_bind, Option.bind_some,
        Option.pure_def]

theorem avoids_limits {t : Token} (h : t ≠ .word "LIMIT") (limit offset : Option UInt64) :
    Avoids t (ofLimits limit offset) := by
  have hlimit : ∀ is, Avoids t (fixed "LIMIT" ++ is) := fun is he => h (Item.token.inj (Option.some.inj he)).symm
  have hminus : ∀ is, Avoids t (fixed "LIMIT -1 OFFSET" ++ is) := fun is he => h (Item.token.inj (Option.some.inj he)).symm
  cases limit with
  | none =>
    cases offset with
    | none => exact .nil t
    | some o => exact hminus _
  | some l => cases offset <;> exact hlimit _

theorem avoids_sort {t : Token} (h : t ≠ .word "ORDER") {sort : List SortKey} {rest : List Item} (hr : Avoids t rest) :
    Avoids t (ofSort sort ++ rest) := by
  rw [ofSort]
  split
  · exact hr
  · rw [List.append_assoc]
    exact fun he => h (Item.token.inj (Option.some.inj he)).symm

theorem resolution?_ofResolution {refresh : List String} (h : ∀ c ∈ refresh, IsWord c) :
    resolution? (ofResolution refresh) = some (refresh, []) := by
  cases refresh with
  | nil => rfl
  | cons c cs =>
    have hnothing : ∀ is, after? "DO NOTHING" (fixed "DO UPDATE SET" ++ is) = none := fun _ => rfl
    have hlist := @list?_listed String "," (by decide) refresh? ofRefresh (c :: cs) (by simp)
      (fun c hc => refresh?_ofRefresh (h c hc)) [] rfl
    rw [List.append_nil] at hlist
    simp only [ofResolution, List.isEmpty_cons, Bool.false_eq_true, if_false, resolution?, hnothing, after?_fixed, hlist,
      Option.bind_eq_bind, Option.bind_some]

/-! ## Statements -/

namespace Statement

theorem select?_items {table : String} {fields : List String} {conditions : List Condition} {sort : List SortKey}
    {limit offset : Option UInt64} (h : WellFormed (.select table fields conditions sort limit offset)) :
    select? (listed "," (fields.map fixed) ++ (fixed "FROM" ++ (fixed table ++ (ofConditions conditions
      ++ (ofSort sort ++ ofLimits limit offset))))) = some (.select table fields conditions sort limit offset) := by
  obtain ⟨ht, ⟨hne, hf⟩, hc, hs⟩ := h
  have hfields := fun rest => @list?_listed String "," (by decide) field? fixed fields hne
    (fun f h => field?_fixed (hf f h)) (fixed "FROM" ++ rest) (after?_fixed_other (by decide) rest)
  have hconditions := @conditions?_ofConditions conditions hc (ofSort sort ++ ofLimits limit offset)
    (avoids_sort (by decide) (avoids_limits (by decide) limit offset))
    (avoids_sort (by decide) (avoids_limits (by decide) limit offset))
  have hsort := @sort?_ofSort sort hs (ofLimits limit offset) (avoids_limits (by decide) limit offset)
    (avoids_limits (by decide) limit offset)
  simp only [select?, hfields, after?_fixed, name?_fixed ht, hconditions, hsort, limits?_ofLimits, Option.bind_eq_bind,
    Option.bind_some]
  rfl

/-- An insertion is read up to its last row, whatever stands after it but another row. -/
theorem insert?_ofRows {table : String} {columns : List String} {rows : List (List Scalar)} (ht : IsWord table)
    (hc : columns ≠ [] ∧ ∀ c ∈ columns, IsWord c) (hr : rows ≠ [] ∧ ∀ row ∈ rows, row ≠ []) {rest : List Item}
    (hrest : after? "," rest = none) :
    insert? (fixed table ++ (bracketed (columns.map fixed) ++ (fixed "VALUES" ++ (listed "," (rows.map ofValues) ++ rest))))
      = afterRows? table columns rows rest := by
  have hcolumns := bracketed?_bracketed hc.1 (fun c h => name?_fixed (hc.2 c h))
  have hdefault : ∀ is, after? "DEFAULT VALUES" (bracketed (columns.map fixed) ++ is) = none := fun _ => rfl
  have hrows := @list?_listed (List Scalar) "," (by decide) (bracketed? value?) ofValues rows hr.1
    (fun row h => values?_ofValues (hr.2 row h)) rest hrest
  simp only [insert?, name?_fixed ht, hdefault, hcolumns, after?_fixed, hrows, Option.bind_eq_bind, Option.bind_some]

theorem afterRows?_upsert {table : String} {columns : List String} {values : List Scalar} {conflict refresh : List String}
    (hconflict : ∀ c ∈ conflict, IsWord c) (hrefresh : ∀ c ∈ refresh, IsWord c) :
    afterRows? table columns [values]
      (fixed "ON CONFLICT" ++ ((if conflict.isEmpty then [] else bracketed (conflict.map fixed)) ++ ofResolution refresh))
      = some (.upsert table columns values conflict refresh) := by
  have hres := resolution?_ofResolution hrefresh
  rw [afterRows?, after?_fixed]
  cases conflict with
  | nil =>
    have hopen : after? "(" (ofResolution refresh) = none := by cases refresh <;> rfl
    rw [List.isEmpty_nil, if_pos rfl, List.nil_append]
    simp only [hopen, Option.isSome_none, Bool.false_eq_true, if_false, Option.bind_eq_bind, Option.bind_some, hres]
    rfl
  | cons c cs =>
    have hopen : (after? "(" (bracketed ((c :: cs).map fixed) ++ ofResolution refresh)).isSome := rfl
    have hnames := bracketed?_bracketed (List.cons_ne_nil c cs) (fun c h => name?_fixed (hconflict c h))
    rw [List.isEmpty_cons, if_neg Bool.false_ne_true]
    simp only [hopen, if_true, hnames, Option.bind_eq_bind, Option.bind_some, hres]
    rfl

theorem update?_items {table : String} {assignments : List (String × Scalar)} {conditions : List Condition}
    (h : WellFormed (.update table assignments conditions)) :
    update? (fixed table ++ (fixed "SET" ++ (listed "," (assignments.map ofAssignment) ++ ofConditions conditions)))
      = some (.update table assignments conditions) := by
  obtain ⟨ht, ⟨hne, ha⟩, hc⟩ := h
  have hcomma : after? "," (ofConditions conditions) = none := by cases conditions <;> rfl
  have hassign := @list?_listed (String × Scalar) "," (by decide) assignment? ofAssignment assignments hne
    (fun p h => assignment?_ofAssignment (ha p h)) (ofConditions conditions) hcomma
  have hconditions := @conditions?_ofConditions conditions hc [] (.nil _) (.nil _)
  rw [List.append_nil] at hconditions
  simp only [update?, name?_fixed ht, after?_fixed, hassign, hconditions, Option.bind_eq_bind, Option.bind_some]
  rfl

theorem delete?_items {table : String} {conditions : List Condition} (h : WellFormed (.delete table conditions)) :
    delete? (fixed table ++ ofConditions conditions) = some (.delete table conditions) := by
  have hconditions := @conditions?_ofConditions conditions h.2 [] (.nil _) (.nil _)
  rw [List.append_nil] at hconditions
  simp only [delete?, name?_fixed h.1, hconditions, Option.bind_eq_bind, Option.bind_some]
  rfl

/-- The first words of a statement decide how it is read. -/
theorem ofItems?_fixed {form : String × (List Item → Option Statement)} (hf : form ∈ forms) {is : List Item} {s : Statement}
    (h : form.2 is = some s) : ofItems? (fixed form.1 ++ is) = some s := by
  have hstart : (fixed form.1 ++ is).isEmpty = false := by
    simp only [forms, List.mem_cons, List.not_mem_nil, or_false] at hf
    rcases hf with rfl | rfl | rfl | rfl <;> rfl
  rw [ofItems?, hstart, if_neg Bool.false_ne_true]
  simp only [forms, List.mem_cons, List.not_mem_nil, or_false] at hf
  rcases hf with rfl | rfl | rfl | rfl <;> dsimp only at h ⊢ <;>
    simp (disch := decide) only [forms, List.findSome?_cons, after?_fixed, after?_fixed_other, Option.bind_some,
      Option.bind_none, h]

/-- A statement is read off its items. -/
theorem ofItems?_ofStatement {s : Statement} (h : s.WellFormed) : ofItems? (ofStatement s) = some s := by
  cases s with
  | noop => rfl
  | select table fields conditions sort limit offset =>
    exact @ofItems?_fixed ("SELECT", select?) (by simp [forms]) _ _ (select?_items h)
  | insertDefaults table =>
    refine @ofItems?_fixed ("INSERT INTO", insert?) (by simp [forms]) _ _ ?_
    have hdefault := after?_fixed "DEFAULT VALUES" []
    rw [List.append_nil] at hdefault
    simp only [insert?, name?_fixed h, Option.bind_eq_bind, Option.bind_some, hdefault]
    rfl
  | insert table columns rows =>
    obtain ⟨ht, hc, hr⟩ := h
    have hrows := @insert?_ofRows table columns rows ht hc hr [] rfl
    rw [List.append_nil] at hrows
    exact @ofItems?_fixed ("INSERT INTO", insert?) (by simp [forms]) _ _ hrows
  | update table assignments conditions =>
    exact @ofItems?_fixed ("UPDATE", update?) (by simp [forms]) _ _ (update?_items h)
  | delete table conditions =>
    exact @ofItems?_fixed ("DELETE FROM", delete?) (by simp [forms]) _ _ (delete?_items h)
  | upsert table columns values conflict refresh =>
    obtain ⟨ht, hc, hv, hconflict, hrefresh, -⟩ := h
    rw [ofStatement, ofRows, List.append_assoc]
    refine @ofItems?_fixed ("INSERT INTO", insert?) (by simp [forms]) _ _ ?_
    simp only [List.append_assoc]
    rw [insert?_ofRows ht hc ⟨by simp, by simpa using hv⟩ rfl, afterRows?_upsert hconflict hrefresh]

/-- What a statement is compiled to says that statement. -/
theorem statement?_compiled {s : Statement} (h : s.WellFormed) : s.compiled.statement? = some s := by
  rw [Compiled.statement?, spells_compiled h, Option.bind_some, ofItems?_ofStatement h]

end Statement

/-! ## Names in a query -/

/-- The names that a query puts into its text; the mark for all fields is none. -/
def Query.names (q : Query) : List String :=
  q.table :: match q.action with
  | .select s => s.fields.filter (· ≠ "*") ++ (s.filters.map Filter.field ++ s.sort.map SortKey.field)
  | .insert values => values.keys
  | .insertMany rows => rows.flatMap KeyMap.keys
  | .update values filters => values.keys ++ filters.map Filter.field
  | .delete filters => filters.map Filter.field
  | .deleteMany field _ => [field]
  | .upsert values conflict refresh => values.keys ++ (conflict ++ refresh.getD [])

/-- Every name is one that may name a table or a column. -/
def Query.NamesValid (q : Query) : Prop := ∀ n ∈ q.names, Identifier.isValid n

instance (q : Query) : Decidable q.NamesValid := inferInstanceAs (Decidable (∀ n ∈ q.names, _))

/-- A valid name is one word. -/
theorem isWord_of_isValid {n : String} (h : Identifier.isValid n) : IsWord n := by
  unfold Identifier.isValid Identifier.fault? at h
  cases hn : n.toList with
  | nil => simp [hn] at h
  | cons c cs =>
    rw [hn] at h
    refine ⟨fun he => by simp [he] at hn, ?_⟩
    rw [hn]
    dsimp only at h
    split at h
    · cases h
    · split at h
      · cases h
      · split at h
        · cases h
        · next hall => simpa using hall

theorem wellFormed_condition {f : Filter} (h : IsWord f.field) : f.condition.WellFormed := by
  obtain ⟨field, operator, operand⟩ := f
  cases operator <;> rcases operand with v | _ | ⟨v, vs⟩ <;>
    first | exact trivial | exact h | exact ⟨h, List.cons_ne_nil v vs⟩

theorem wellFormed_conditions {filters : List Filter} (h : ∀ n ∈ filters.map Filter.field, IsWord n) :
    ∀ c ∈ filters.map Filter.condition, c.WellFormed := by
  intro c hc
  obtain ⟨f, hf, rfl⟩ := List.mem_map.1 hc
  exact wellFormed_condition (h _ (List.mem_map_of_mem hf))

/-- The columns of the union are the columns of the rows. -/
theorem mem_columnUnion {rows : List ValueMap} {c : String} : c ∈ columnUnion rows ↔ c ∈ rows.flatMap KeyMap.keys :=
  KeyMap.mem_keys_ofPairs_map

/-- A query with valid names has a statement that can be read. -/
theorem wellFormed_statement {q : Query} (h : q.NamesValid) : q.statement.WellFormed := by
  have hw : ∀ n ∈ q.names, IsWord n := fun n hn => isWord_of_isValid (h n hn)
  obtain ⟨table, action⟩ := q
  have ht : IsWord table := hw _ List.mem_cons_self
  cases action with
  | select s =>
    simp only [Query.names, List.mem_cons, List.mem_append] at hw
    refine ⟨ht, ⟨?_, ?_⟩, wellFormed_conditions fun n hn => hw n (.inr (.inr (.inl hn))), fun k hk => ?_⟩
    · cases hf : s.fields <;> simp
    · intro f hf
      by_cases hall : f = "*"
      · exact .inl hall
      · right
        apply hw f (.inr (.inl ?_))
        cases hfields : s.fields with
        | nil => simp [hfields, hall] at hf
        | cons g gs =>
          rw [hfields] at hf
          simp only [List.isEmpty_cons, Bool.false_eq_true, if_false] at hf
          simp [List.mem_filter, hf, hall]
    · exact hw _ (.inr (.inr (.inr (List.mem_map_of_mem hk))))
  | insert values =>
    simp only [Query.names, List.mem_cons] at hw
    rw [Query.statement]
    dsimp only
    split
    · exact ht
    · next he =>
      have hne := KeyMap.isEmpty_eq_false_iff.1 (by simpa using he)
      refine ⟨ht, ⟨hne, fun c hc => hw c (.inr hc)⟩, by simp, ?_⟩
      simpa [KeyMap.keys, KeyMap.values] using hne
  | insertMany rows =>
    simp only [Query.names, List.mem_cons] at hw
    rw [Query.statement]
    dsimp only
    split
    · trivial
    · next he =>
      have hne : columnUnion rows ≠ [] := by simpa using he
      refine ⟨ht, ⟨hne, fun c hc => hw c (.inr (mem_columnUnion.1 hc))⟩, ?_, ?_⟩
      · rw [ne_eq, List.map_eq_nil_iff]
        rintro rfl
        exact hne rfl
      · intro row hrow
        obtain ⟨r, _, rfl⟩ := List.mem_map.1 hrow
        simpa [ValueMap.rowIn] using hne
  | update values filters =>
    simp only [Query.names, List.mem_cons, List.mem_append] at hw
    rw [Query.statement]
    dsimp only
    split
    · trivial
    · next he =>
      have hne := KeyMap.isEmpty_eq_false_iff.1 (by simpa using he)
      refine ⟨ht, ⟨by simpa [KeyMap.keys] using hne, fun p hp => hw _ (.inr (.inl (List.mem_map_of_mem hp)))⟩, ?_⟩
      exact wellFormed_conditions fun n hn => hw n (.inr (.inr hn))
  | delete filters =>
    simp only [Query.names, List.mem_cons] at hw
    exact ⟨ht, wellFormed_conditions fun n hn => hw n (.inr hn)⟩
  | deleteMany field ids =>
    simp only [Query.names, List.mem_cons, List.not_mem_nil, or_false] at hw
    refine ⟨ht, fun c hc => ?_⟩
    rw [List.mem_singleton.1 hc]
    exact wellFormed_condition (hw field (.inr rfl))
  | upsert values conflict refresh =>
    simp only [Query.names, List.mem_cons, List.mem_append] at hw
    rw [Query.statement]
    dsimp only
    split
    · trivial
    · next he =>
      have hne := KeyMap.isEmpty_eq_false_iff.1 (by simpa using he)
      refine ⟨ht, ⟨hne, fun c hc => hw c (.inr (.inl hc))⟩, ?_, fun c hc => hw c (.inr (.inr (.inl hc))), ?_, ?_⟩
      · simpa [KeyMap.keys, KeyMap.values] using hne
      · intro c hc
        split at hc
        · cases hc
        · cases refresh with
          | none => exact hw c (.inr (.inl ((List.mem_filter.1 hc).1)))
          | some columns => exact hw c (.inr (.inr (.inr hc)))
      · rintro rfl
        rfl

/-- **A query is read back from what it is compiled to**, as far as its meaning goes. -/
theorem statement?_compile {q : Query} (h : q.NamesValid) : q.compile.statement? = some q.statement := by
  rw [Query.compile_eq, Statement.statement?_compiled (wellFormed_statement h)]

/-- **Queries compile to the same text and arguments exactly when they mean the same.** -/
theorem compile_eq_iff {q q' : Query} (h : q.NamesValid) (h' : q'.NamesValid) :
    q.compile = q'.compile ↔ q.statement = q'.statement := by
  constructor
  · intro he
    have hs := statement?_compile h
    rw [he, statement?_compile h'] at hs
    exact (Option.some.inj hs).symm
  · intro he
    rw [Query.compile_eq, Query.compile_eq, he]

/-- The records under two keys are to be deleted. -/
def deletionByKeys : Query := ⟨"note", .deleteMany "id" [.integer 7, .text "a"]⟩

/-- The same as a filter asks for it. -/
def deletionByFilter : Query := ⟨"note", .delete [⟨"id", .inSet, .multiple [.integer 7, .text "a"]⟩]⟩

theorem compile_eq_iff_deletions : deletionByKeys.NamesValid ∧ deletionByFilter.NamesValid ∧
    (deletionByKeys.compile = deletionByFilter.compile ↔ deletionByKeys.statement = deletionByFilter.statement) := by
  have h : deletionByKeys.NamesValid := by decide
  have h' : deletionByFilter.NamesValid := by decide
  exact ⟨h, h', compile_eq_iff h h'⟩

end TypedStorage
