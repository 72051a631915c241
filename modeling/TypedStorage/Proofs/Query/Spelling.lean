/-
How the text of a statement falls into tokens. Cutting a text into tokens commutes with putting texts together as
long as no word runs on over the seam (`Spells.append_left`, `Spells.append_right`), and every fixed part of a
statement starts or ends with a blank or a mark where it meets another part. So the tokens of a statement, with its
arguments in the places of their marks, are read off its parts one by one (`spells_compiled`).
-/
import TypedStorage.Proofs.Query.Reader
import TypedStorage.Proofs.Text.Digits

namespace TypedStorage

namespace Token

/-! ## Seams -/

/-- A text that starts with a blank or a mark. -/
def opens (s : String) : Bool := s.toList.head?.any fun c => !Identifier.isPart c

/-- A text that ends with a blank or a mark. -/
def closes (s : String) : Bool := s.toList.getLast?.any fun c => !Identifier.isPart c

/-- A word is cut off by whatever is no part of it. -/
theorem lexFrom_append {cs : List Char} {c : Char} (hc : Identifier.isPart c = false) (w bs : List Char) :
    lexFrom w (bs ++ c :: cs) = lexFrom w bs ++ (ofMark c ++ lexFrom [] cs) := by
  induction bs generalizing w with
  | nil => simp only [List.nil_append, lexFrom, hc, Bool.false_eq_true, if_false]
  | cons b bs ih =>
    rw [List.cons_append, lexFrom, lexFrom]
    split
    · exact ih _
    · rw [ih, List.append_assoc, List.append_assoc]

theorem lex_append_of_opens (s : String) {t : String} (h : opens t) : lex (s ++ t) = lex s ++ lex t := by
  simp only [opens, Option.any_eq_true, Bool.not_eq_eq_eq_not, Bool.not_true] at h
  obtain ⟨c, hc, hpart⟩ := h
  obtain ⟨cs, hcs⟩ := List.head?_eq_some_iff.1 hc
  have hnil := @lexFrom_append cs c hpart [] []
  rw [List.nil_append, lexFrom, ofChars, if_pos rfl, List.nil_append] at hnil
  rw [lex, lex, lex, String.toList_append, hcs, lexFrom_append hpart, hnil]

theorem lex_append_of_closes {s : String} (h : closes s) (t : String) : lex (s ++ t) = lex s ++ lex t := by
  simp only [closes, Option.any_eq_true, Bool.not_eq_eq_eq_not, Bool.not_true] at h
  obtain ⟨c, hc, hpart⟩ := h
  obtain ⟨bs, hbs⟩ := List.getLast?_eq_some_iff.1 hc
  rw [lex, lex, lex, String.toList_append, hbs, List.append_assoc, List.singleton_append, lexFrom_append hpart,
    lexFrom_append hpart, List.append_assoc, List.append_assoc, lexFrom, ofChars, if_pos rfl, List.nil_append]

theorem closes_append (s : String) {t : String} (h : closes t) : closes (s ++ t) := by
  simp only [closes, Option.any_eq_true] at h ⊢
  obtain ⟨c, hc, hpart⟩ := h
  exact ⟨c, by rw [String.toList_append, List.getLast?_append, hc, Option.some_or], hpart⟩

/-- A name is one word. -/
structure IsWord (w : String) : Prop where
  nonempty : w ≠ ""
  parts : ∀ c ∈ w.toList, Identifier.isPart c

theorem lexFrom_parts {cs : List Char} (h : ∀ c ∈ cs, Identifier.isPart c) (w : List Char) :
    lexFrom w cs = ofChars (w ++ cs) := by
  induction cs generalizing w with
  | nil => rw [lexFrom, List.append_nil]
  | cons c cs ih =>
    rw [lexFrom, if_pos (h c List.mem_cons_self), ih fun d hd => h d (List.mem_cons_of_mem _ hd), List.append_assoc,
      List.singleton_append]

theorem lex_word {w : String} (h : IsWord w) : lex w = [.word w] := by
  have hne : w.toList ≠ [] := by simpa using h.nonempty
  rw [lex, lexFrom_parts h.parts, ofChars, List.nil_append, if_neg hne, String.ofList_toList]

end Token

open Token Item

/-! ## Spelling -/

/-- The text and these arguments fall into these items. -/
def Spells (s : String) (vs : List Scalar) (is : List Item) : Prop := bind? (lex s) vs = some is

/-- The text binds nothing. -/
def plain (s : String) : Bool := (lex s).all (· ≠ .mark '?')

theorem bind?_append {ts us : List Token} {vs ws : List Scalar} {is js : List Item} (h : bind? ts vs = some is)
    (h' : bind? us ws = some js) : bind? (ts ++ us) (vs ++ ws) = some (is ++ js) := by
  induction ts generalizing vs is with
  | nil =>
    cases vs with
    | nil =>
      cases h
      exact h'
    | cons v vs => cases h
  | cons t ts ih =>
    rw [bind?.eq_def] at h
    rw [List.cons_append, bind?.eq_def]
    dsimp only at h ⊢
    split at h
    · next ht =>
      cases vs with
      | nil => cases h
      | cons v vs =>
        simp only [Option.map_eq_some_iff] at h
        obtain ⟨is', his, rfl⟩ := h
        rw [if_pos ht, List.cons_append]
        dsimp only
        rw [ih his]
        rfl
    · next ht =>
      simp only [Option.map_eq_some_iff] at h
      obtain ⟨is', his, rfl⟩ := h
      rw [if_neg ht, ih his]
      rfl

theorem nil_intercalate {α : Type} (ls : List (List α)) : ([] : List α).intercalate ls = ls.flatten := by
  induction ls with
  | nil => rfl
  | cons l ls ih =>
    cases ls with
    | nil => simp
    | cons m ls =>
      rw [List.intercalate_cons_cons, List.append_nil, ih]
      rfl

/-- What contributes nothing may be left out. -/
theorem flatMap_filter {α β : Type} {p : α → Bool} {f : α → List β} {xs : List α} (h : ∀ x ∈ xs, p x = false → f x = []) :
    (xs.filter p).flatMap f = xs.flatMap f := by
  induction xs with
  | nil => rfl
  | cons x xs ih =>
    have ih := ih fun y hy => h y (List.mem_cons_of_mem _ hy)
    rw [List.filter_cons, List.flatMap_cons]
    split
    · rw [List.flatMap_cons, ih]
    · next hp => rw [ih, h x List.mem_cons_self (by simpa using hp), List.nil_append]

namespace Spells

variable {s t : String} {vs ws : List Scalar} {is js : List Item}

theorem append_left (hs : closes s) (h : Spells s vs is) (h' : Spells t ws js) : Spells (s ++ t) (vs ++ ws) (is ++ js) := by
  rw [Spells, lex_append_of_closes hs]
  exact bind?_append h h'

theorem append_right (ht : opens t) (h : Spells s vs is) (h' : Spells t ws js) : Spells (s ++ t) (vs ++ ws) (is ++ js) := by
  rw [Spells, lex_append_of_opens s ht]
  exact bind?_append h h'

theorem of_plain (h : plain s) : Spells s [] (fixed s) := by
  unfold Spells fixed
  unfold plain at h
  generalize lex s = ts at h ⊢
  induction ts with
  | nil => rfl
  | cons t ts ih =>
    simp only [List.all_cons, Bool.and_eq_true, decide_eq_true_eq] at h
    rw [bind?, if_neg h.1, ih h.2]
    rfl

theorem of_word {w : String} (h : IsWord w) : Spells w [] (fixed w) := of_plain (by simp [plain, lex_word h])

/-- The text of a part with a fixed text in front of it. -/
theorem after (m m' : String) (hm : plain m = true ∧ closes m = true ∧ lex m = lex m') (h : Spells t vs is) :
    Spells (m ++ t) vs (fixed m' ++ is) := by
  rw [fixed, ← hm.2.2]
  exact append_left hm.2.1 (of_plain hm.1) h

/-- The text of a part with a fixed text behind it. -/
theorem before (m m' : String) (hm : plain m = true ∧ opens m = true ∧ lex m = lex m') (h : Spells s vs is) :
    Spells (s ++ m) vs (is ++ fixed m') := by
  have := append_right hm.2.1 h (of_plain hm.1)
  rwa [List.append_nil, fixed, hm.2.2] at this

/-- The texts of two parts with a fixed text between them. -/
theorem between (m m' : String) (hm : plain m = true ∧ opens m = true ∧ closes m = true ∧ lex m = lex m')
    (h : Spells s vs is) (h' : Spells t ws js) : Spells (s ++ m ++ t) (vs ++ ws) (is ++ (fixed m' ++ js)) := by
  rw [← List.append_assoc]
  exact append_left (closes_append s hm.2.2.1) (before m m' ⟨hm.1, hm.2.1, hm.2.2.2⟩ h) h'

/-- A text between any two of the parts. -/
theorem intercalate {α : Type} (hs : plain s = true ∧ opens s = true ∧ closes s = true) {text : α → String}
    {args : α → List Scalar} {items : α → List Item} {xs : List α} (h : ∀ x ∈ xs, Spells (text x) (args x) (items x)) :
    Spells (s.intercalate (xs.map text)) (xs.flatMap args) ((fixed s).intercalate (xs.map items)) := by
  induction xs with
  | nil => rfl
  | cons x xs ih =>
    have hx := h x List.mem_cons_self
    have ih := ih fun y hy => h y (List.mem_cons_of_mem _ hy)
    cases xs with
    | nil => simpa using hx
    | cons y xs =>
      simp only [List.map_cons, String.intercalate_cons_cons, List.intercalate_cons_cons, List.flatMap_cons] at ih ⊢
      have hsep := append_right hs.2.1 hx (of_plain hs.1)
      rw [List.append_nil] at hsep
      exact append_left (closes_append _ hs.2.2) hsep ih

/-- An empty text is the spelling of nothing. -/
theorem empty (h : Spells "" vs is) : vs = [] ∧ is = [] := by
  cases vs with
  | nil =>
    have he : some [] = some is := h
    exact ⟨rfl, (Option.some.inj he).symm⟩
  | cons v vs => cases h

/-- Clauses with blanks between them, where an empty one leaves no trace. -/
theorem join {α : Type} {text : α → String} {args : α → List Scalar} {items : α → List Item} {xs : List α}
    (h : ∀ x ∈ xs, Spells (text x) (args x) (items x)) :
    Spells (Clause.join (xs.map text)) (xs.flatMap args) (xs.flatMap items) := by
  have hempty : ∀ x ∈ xs, (text x != "") = false → args x = [] ∧ items x = [] := by
    intro x hx he
    have hs := h x hx
    rw [show text x = "" by simpa using he] at hs
    exact hs.empty
  have hs := @intercalate " " α ⟨by decide, by decide, by decide⟩ text args items
    (xs.filter (text · != "")) fun x hx => h x (List.mem_filter.1 hx).1
  rw [show fixed " " = [] by rfl, nil_intercalate, ← List.flatMap_def,
    flatMap_filter fun x hx he => (hempty x hx he).1, flatMap_filter fun x hx he => (hempty x hx he).2] at hs
  rw [Clause.join, List.filter_map]
  exact hs

end Spells

/-! ## The items of a statement -/

namespace Item

/-- Parts with a text between each and the next. -/
def listed (sep : String) (parts : List (List Item)) : List Item := (fixed sep).intercalate parts

def bracketed (parts : List (List Item)) : List Item := fixed "(" ++ (listed "," parts ++ fixed ")")

/-- The values of a row, or of a set. -/
def ofValues (vs : List Scalar) : List Item := bracketed (vs.map fun v => [.value v])

def ofCondition : Condition → List Item
  | .never => fixed "1=0"
  | .compare field op v => fixed field ++ (fixed op.sql ++ [.value v])
  | .among field vs => fixed field ++ (fixed "IN" ++ ofValues vs)

def ofConditions (conditions : List Condition) : List Item :=
  if conditions.isEmpty then [] else fixed "WHERE" ++ listed "AND" (conditions.map ofCondition)

def ofSortKey (k : SortKey) : List Item := fixed k.field ++ fixed k.direction.sql

def ofSort (sort : List SortKey) : List Item :=
  if sort.isEmpty then [] else fixed "ORDER BY" ++ listed "," (sort.map ofSortKey)

def ofNumber (n : UInt64) : List Item := fixed (toString n.toNat)

def ofLimits : Option UInt64 → Option UInt64 → List Item
  | some l, some o => fixed "LIMIT" ++ (ofNumber l ++ (fixed "OFFSET" ++ ofNumber o))
  | some l, none => fixed "LIMIT" ++ ofNumber l
  | none, some o => fixed "LIMIT -1 OFFSET" ++ ofNumber o
  | none, none => []

def ofAssignment (p : String × Scalar) : List Item := fixed p.1 ++ (fixed "=" ++ [.value p.2])

def ofRefresh (column : String) : List Item := fixed column ++ (fixed "= excluded." ++ fixed column)

def ofResolution (refresh : List String) : List Item :=
  if refresh.isEmpty then fixed "DO NOTHING" else fixed "DO UPDATE SET" ++ listed "," (refresh.map ofRefresh)

/-- An insertion up to its last row. -/
def ofRows (table : String) (columns : List String) (rows : List (List Scalar)) : List Item :=
  fixed "INSERT INTO" ++ (fixed table ++ (bracketed (columns.map fixed)
    ++ (fixed "VALUES" ++ listed "," (rows.map ofValues))))

def ofStatement : Statement → List Item
  | .noop => []
  | .select table fields conditions sort limit offset =>
    fixed "SELECT" ++ (listed "," (fields.map fixed) ++ (fixed "FROM" ++ (fixed table ++ (ofConditions conditions
      ++ (ofSort sort ++ ofLimits limit offset)))))
  | .insertDefaults table => fixed "INSERT INTO" ++ (fixed table ++ fixed "DEFAULT VALUES")
  | .insert table columns rows => ofRows table columns rows
  | .update table assignments conditions =>
    fixed "UPDATE" ++ (fixed table ++ (fixed "SET" ++ (listed "," (assignments.map ofAssignment)
      ++ ofConditions conditions)))
  | .delete table conditions => fixed "DELETE FROM" ++ (fixed table ++ ofConditions conditions)
  | .upsert table columns values conflict refresh =>
    ofRows table columns [values] ++ (fixed "ON CONFLICT" ++
      ((if conflict.isEmpty then [] else bracketed (conflict.map fixed)) ++ ofResolution refresh))

end Item

/-! ## Names in a statement -/

/-- A name, or the mark for all fields. -/
def IsField (name : String) : Prop := name = "*" ∨ IsWord name

def Condition.WellFormed : Condition → Prop
  | .never => True
  | .compare field _ _ => IsWord field
  | .among field vs => IsWord field ∧ vs ≠ []

/-- Names are words, and no list is empty that its place in the text does not allow to be. -/
def Statement.WellFormed : Statement → Prop
  | .noop => True
  | .select table fields conditions sort _ _ =>
    IsWord table ∧ (fields ≠ [] ∧ ∀ f ∈ fields, IsField f) ∧ (∀ c ∈ conditions, c.WellFormed) ∧ ∀ k ∈ sort, IsWord k.field
  | .insertDefaults table => IsWord table
  | .insert table columns rows =>
    IsWord table ∧ (columns ≠ [] ∧ ∀ c ∈ columns, IsWord c) ∧ (rows ≠ [] ∧ ∀ row ∈ rows, row ≠ [])
  | .update table assignments conditions =>
    IsWord table ∧ (assignments ≠ [] ∧ ∀ p ∈ assignments, IsWord p.1) ∧ ∀ c ∈ conditions, c.WellFormed
  | .delete table conditions => IsWord table ∧ ∀ c ∈ conditions, c.WellFormed
  | .upsert table columns values conflict refresh =>
    IsWord table ∧ (columns ≠ [] ∧ ∀ c ∈ columns, IsWord c) ∧ values ≠ [] ∧ (∀ c ∈ conflict, IsWord c)
      ∧ (∀ c ∈ refresh, IsWord c) ∧ (conflict = [] → refresh = [])

theorem IsField.plain {name : String} (h : IsField name) : plain name := by
  rcases h with rfl | h
  · decide
  · simp [TypedStorage.plain, lex_word h]

/-! ## The text of a statement spells its items -/

open Spells Clause

/-- Parts that bind something, with commas. -/
theorem spells_commas {α : Type} {text : α → String} {args : α → List Scalar} {items : α → List Item} {xs : List α}
    (h : ∀ x ∈ xs, Spells (text x) (args x) (items x)) :
    Spells (commas (xs.map text)) (xs.flatMap args) (listed "," (xs.map items)) :=
  Spells.intercalate (by decide) h

/-- Parts that bind nothing, with commas. -/
theorem spells_commas_nil {α : Type} {text : α → String} {items : α → List Item} {xs : List α}
    (h : ∀ x ∈ xs, Spells (text x) [] (items x)) : Spells (commas (xs.map text)) [] (listed "," (xs.map items)) := by
  have hs := spells_commas h
  rwa [List.flatMap_eq_nil_iff.2 fun _ _ => rfl] at hs

theorem spells_names {names : List String} (h : ∀ n ∈ names, plain n) :
    Spells (commas names) [] (listed "," (names.map fixed)) := by
  have hs := @spells_commas_nil String id fixed names fun n hn => of_plain (h n hn)
  rwa [List.map_id] at hs

theorem spells_placeholders (vs : List Scalar) :
    Spells (placeholders vs.length) vs (listed "," (vs.map fun v => [.value v])) := by
  have hs := @spells_commas Scalar (fun _ => "?") (fun v => [v]) (fun v => [.value v]) vs fun v _ => rfl
  rwa [List.map_const', List.flatMap_singleton'] at hs

theorem spells_group (row : List Scalar) : Spells (Statement.group row) row (ofValues row) := by
  rw [Statement.group, String.append_assoc]
  exact after "(" "(" (by decide) (before ")" ")" (by decide) (spells_placeholders row))

theorem spells_condition {c : Condition} (h : c.WellFormed) :
    Spells c.compiled.sql c.compiled.args (ofCondition c) := by
  cases c with
  | never => exact of_plain (by decide)
  | compare field op v =>
    have hop : opens (" " ++ op.sql ++ " ?") ∧ Spells (" " ++ op.sql ++ " ?") [v] (fixed op.sql ++ [.value v]) := by
      cases op <;> exact ⟨by decide, rfl⟩
    have hs := append_right hop.1 (of_word h) hop.2
    simp only [Condition.compiled, String.append_assoc] at hs ⊢
    exact hs
  | among field vs =>
    have hs := between " IN " "IN" (by decide) (of_word h.1) (spells_group vs)
    have hin : " IN (" = " IN " ++ "(" := by decide
    simp only [Condition.compiled, Statement.group, hin, String.append_assoc] at hs ⊢
    exact hs

theorem spells_conditions {conditions : List Condition} (h : ∀ c ∈ conditions, c.WellFormed) :
    Spells (Condition.whereAll conditions).sql (Condition.whereAll conditions).args (ofConditions conditions) := by
  rw [Condition.whereAll, ofConditions]
  split
  · rfl
  · refine after "WHERE " "WHERE" (by decide) ?_
    exact Spells.intercalate (s := " AND ") (by decide) fun c hc => spells_condition (h c hc)

theorem spells_sort {sort : List SortKey} (h : ∀ k ∈ sort, IsWord k.field) : Spells (orderBy sort) [] (ofSort sort) := by
  unfold orderBy ofSort
  split
  · rfl
  · refine after "ORDER BY " "ORDER BY" (by decide) (spells_commas_nil fun k hk => ?_)
    have hd : opens (" " ++ k.direction.sql) ∧ Spells (" " ++ k.direction.sql) [] (fixed k.direction.sql) := by
      cases k.direction <;> exact ⟨by decide, rfl⟩
    have hs := append_right hd.1 (of_word (h k hk)) hd.2
    rw [sortKey, String.append_assoc]
    exact hs

theorem toList_number (n : Nat) : (toString n).toList = Text.natDigits n := by
  rw [Nat.toString_eq_repr, Nat.toList_repr, Text.natDigits]

theorem isWord_number (n : Nat) : IsWord (toString n) where
  nonempty := by
    intro h
    have := toList_number n
    rw [h] at this
    exact Text.natDigits_ne_nil n this.symm
  parts c hc := by
    rw [toList_number] at hc
    simp [Identifier.isPart, Char.isAlphanum, Text.isDigit_of_mem_natDigits hc]

theorem spells_limit (limit offset : Option UInt64) : Spells (Clause.limit limit offset) [] (ofLimits limit offset) := by
  have hn (n : UInt64) : Spells (toString n.toNat) [] (ofNumber n) := of_word (isWord_number _)
  cases limit with
  | none =>
    cases offset with
    | none => rfl
    | some o => exact after "LIMIT -1 OFFSET " "LIMIT -1 OFFSET" (by decide) (hn o)
  | some l =>
    cases offset with
    | none => exact after "LIMIT " "LIMIT" (by decide) (hn l)
    | some o =>
      have hs := between " OFFSET " "OFFSET" (by decide) (hn l) (hn o)
      have hs := after "LIMIT " "LIMIT" (by decide) hs
      have hlimit : Clause.limit (some l) (some o) = "LIMIT " ++ toString l.toNat ++ " OFFSET " ++ toString o.toNat := rfl
      rw [hlimit, String.append_assoc, String.append_assoc]
      rw [String.append_assoc] at hs
      exact hs

theorem spells_resolution {refresh : List String} (h : ∀ c ∈ refresh, IsWord c) :
    Spells (Statement.resolution refresh) [] (ofResolution refresh) := by
  rw [Statement.resolution, ofResolution]
  split
  · exact of_plain (by decide)
  · refine after "DO UPDATE SET " "DO UPDATE SET" (by decide) (spells_commas_nil fun c hc => ?_)
    exact between " = excluded." "= excluded." (by decide) (of_word (h c hc)) (of_word (h c hc))

theorem spells_rows {table : String} {columns : List String} (rows : List (List Scalar)) (ht : IsWord table)
    (hc : ∀ c ∈ columns, IsWord c) :
    Spells (Statement.insertSql table columns rows) rows.flatten (ofRows table columns rows) := by
  have hhead := after "INSERT INTO " "INSERT INTO" (by decide) (of_word ht)
  have hnames := between " (" "(" (by decide) hhead (spells_names fun c h => IsField.plain (.inr (hc c h)))
  have hs := between ") VALUES " ") VALUES" (by decide) hnames
    (spells_commas fun row (_ : row ∈ rows) => spells_group row)
  have hclose : fixed ") VALUES" = fixed ")" ++ fixed "VALUES" := rfl
  rw [List.flatMap_id'] at hs
  simp only [ofRows, bracketed, hclose, List.append_assoc] at hs ⊢
  exact hs

/-- **The text of a statement and its arguments spell its items.** -/
theorem spells_compiled {s : Statement} (h : s.WellFormed) : Spells s.compiled.sql s.compiled.args (ofStatement s) := by
  cases s with
  | noop => rfl
  | select table fields conditions sort limit offset =>
    obtain ⟨ht, ⟨_, hf⟩, hc, hs⟩ := h
    have hhead := after "SELECT " "SELECT" (by decide) (spells_names fun f h => (hf f h).plain)
    have hhead := between " FROM " "FROM" (by decide) hhead (of_word ht)
    have hjoin := @Spells.join (String × List Scalar × List Item) (·.1) (·.2.1) (·.2.2)
      [(_, _, _), (_, _, _), (_, _, _), (_, _, _)]
      (by simpa using ⟨hhead, spells_conditions hc, spells_sort hs, spells_limit limit offset⟩)
    simp only [List.map_cons, List.map_nil, List.flatMap_cons, List.flatMap_nil, List.append_nil, List.nil_append,
      List.append_assoc] at hjoin
    exact hjoin
  | insertDefaults table =>
    have hhead := after "INSERT INTO " "INSERT INTO" (by decide) (of_word h)
    have hs := before " DEFAULT VALUES" "DEFAULT VALUES" (by decide) hhead
    rw [List.append_assoc] at hs
    exact hs
  | insert table columns rows => exact spells_rows rows h.1 h.2.1.2
  | update table assignments conditions =>
    obtain ⟨ht, ⟨_, ha⟩, hc⟩ := h
    have hassign : ∀ p ∈ assignments, Spells (p.1 ++ " = ?") [p.2] (ofAssignment p) := fun p hp =>
      append_right (by decide) (of_word (ha p hp)) (show Spells " = ?" [p.2] (fixed "=" ++ [.value p.2]) from rfl)
    have hhead := after "UPDATE " "UPDATE" (by decide) (of_word ht)
    have hhead := between " SET " "SET" (by decide) hhead (spells_commas hassign)
    have hjoin := @Spells.join (String × List Scalar × List Item) (·.1) (·.2.1) (·.2.2) [(_, _, _), (_, _, _)]
      (by simpa using ⟨hhead, spells_conditions hc⟩)
    simp only [List.map_cons, List.map_nil, List.flatMap_cons, List.flatMap_nil, List.append_nil, List.nil_append,
      List.append_assoc, ← List.map_eq_flatMap] at hjoin
    exact hjoin
  | delete table conditions =>
    have hhead := after "DELETE FROM " "DELETE FROM" (by decide) (of_word h.1)
    have hjoin := @Spells.join (String × List Scalar × List Item) (·.1) (·.2.1) (·.2.2) [(_, _, _), (_, _, _)]
      (by simpa using ⟨hhead, spells_conditions h.2⟩)
    simp only [List.map_cons, List.map_nil, List.flatMap_cons, List.flatMap_nil, List.append_nil, List.nil_append,
      List.append_assoc] at hjoin
    exact hjoin
  | upsert table columns values conflict refresh =>
    obtain ⟨ht, ⟨_, hcolumns⟩, _, hconflict, hrefresh, hnone⟩ := h
    have hrows := spells_rows [values] ht hcolumns
    rw [List.flatten_cons, List.flatten_nil, List.append_nil] at hrows
    cases conflict with
    | nil =>
      rw [hnone rfl]
      have hs := before " ON CONFLICT DO NOTHING" "ON CONFLICT DO NOTHING" (by decide) hrows
      exact hs
    | cons c cs =>
      have htarget := between " ON CONFLICT (" "ON CONFLICT (" (by decide) hrows
        (spells_names fun c h => IsField.plain (.inr (hconflict c h)))
      have hs := between ") " ")" (by decide) htarget (spells_resolution hrefresh)
      have hopen : fixed "ON CONFLICT (" = fixed "ON CONFLICT" ++ fixed "(" := rfl
      simp only [Statement.compiled, ofStatement, List.isEmpty_cons, Bool.false_eq_true, if_false, bracketed, hopen,
        List.append_assoc, List.append_nil] at hs ⊢
      exact hs

end TypedStorage
