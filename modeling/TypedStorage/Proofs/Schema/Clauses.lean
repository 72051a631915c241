/-
How much of the statement that creates a table the check of the definition guards. The body of a statement is split
into its clauses by the commas outside quotes and inner parentheses, by a splitter that knows nothing of what writes
it. Names are checked and literals close what they open, but the keyword of a custom type is written as it is. So the
clauses are those of the columns, with the one of the key, exactly as long as every custom type closes what it opens
and divides nothing (`guarded_iff`); a type that does not declares whatever it likes.
-/
import TypedStorage.Proofs.Schema.Faithful

namespace TypedStorage

open Token

/-! ## Splitting a body -/

/-- Where a text stands: whether a quote is open, and how many inner parentheses are. -/
structure Place where
  quoted : Bool
  depth : Nat
  deriving DecidableEq

namespace Place

def start : Place := ⟨false, 0⟩

/-- The place after a character of a clause; a comma or closing parenthesis of the body itself is not one. -/
def step? (p : Place) (c : Char) : Option Place :=
  if c = '\'' then some { p with quoted := !p.quoted }
  else if p.quoted then some p
  else if c = '(' then some { p with depth := p.depth + 1 }
  else if p.depth = 0 then if c = ',' ∨ c = ')' then none else some p
  else if c = ')' then some { p with depth := p.depth - 1 }
  else some p

end Place

namespace Body

open Place

/-- The clauses of a body whose first one has been read so far, and what follows the body. -/
def split? : Place → List Char → List Char → Option (List (List Char) × List Char)
  | _, _, [] => none
  | p, w, c :: cs =>
    match p.step? c with
    | some q => split? q (w ++ [c]) cs
    | none => if c = ',' then (split? start [] cs).map fun (ws, rest) => (w :: ws, rest) else some ([w], cs)

/-- A clause without the blanks in front of it. -/
def trimmed (w : List Char) : String := String.ofList (w.dropWhile (· = ' '))

/-- The clauses of a statement between its first parenthesis and the one that closes it, and what follows. A body with
nothing in it has no clauses. -/
def ofSql? (sql : String) : Option (List String × String) :=
  (split? start [] ((sql.toList.dropWhile (· ≠ '(')).drop 1)).map fun (ws, rest) =>
    (if ws.map trimmed = [""] then [] else ws.map trimmed, String.ofList rest)

end Body

/-- The text is part of one clause: it closes what it opens, and nothing in it ends the clause. -/
def SelfContained (s : String) : Prop := s.toList.foldlM Place.step? .start = some .start

instance (s : String) : Decidable (SelfContained s) := inferInstanceAs (Decidable (_ = _))

namespace TableDefinition

/-- The clause that lists the key columns, for two or more of them. -/
def keyClauses (d : TableDefinition) : List String :=
  if 2 ≤ d.columns.countP (·.isPrimaryKey) then ["PRIMARY KEY (" ++ ", ".intercalate d.primaryKey ++ ")"] else []

/-- The options that stand after the body. -/
def optionText (o : TableOptions) : String :=
  match o.withoutRowId, o.strict with
  | false, false => ""
  | true, false => " WITHOUT ROWID"
  | false, true => " STRICT"
  | true, true => " WITHOUT ROWID, STRICT"

/-- There is one clause for each column, which starts with its name, one for the key if there are to be two, and nothing
behind them but the options. -/
def Guarded (d : TableDefinition) : Prop :=
  ∃ own, Body.ofSql? d.createSql = some (own ++ d.keyClauses, optionText d.options) ∧
    List.Forall₂ (fun c s => ∃ more, s = c.name ++ " " ++ more) d.columns own

/-- The definition's custom types are among these. -/
def TypesIn (d : TableDefinition) (types : String → Prop) : Prop := ∀ c ∈ d.columns, ∀ t, c.type = .custom t → types t

end TableDefinition

/-! ## Texts that stay in their clause -/

/-- The text closes what it opens between this many parentheses. -/
def Steady (depth : Nat) (s : String) : Prop := s.toList.foldlM Place.step? ⟨false, depth⟩ = some ⟨false, depth⟩

instance (depth : Nat) (s : String) : Decidable (Steady depth s) := inferInstanceAs (Decidable (_ = _))

/-- A quote that opens in a word closes in it, and its marks are inside quotes. -/
theorem foldlM_step?_of_within {q r : Bool} {cs : List Char} (h : Within q cs r) (depth : Nat) :
    cs.foldlM Place.step? ⟨q, depth⟩ = some ⟨r, depth⟩ := by
  induction cs generalizing q with
  | nil =>
    cases h
    rfl
  | cons c cs ih =>
    obtain ⟨q', hc, htail⟩ := exists_of_foldlM_cons h
    have hstep : Place.step? ⟨q, depth⟩ c = some ⟨q', depth⟩ := by
      revert hc
      by_cases hquote : c = '\'' <;> cases q <;>
        simp +contextual [Token.quoteStep?, Place.step?, Token.isMark, hquote]
    rw [List.foldlM_cons, hstep]
    exact ih htail

namespace Steady

variable {depth : Nat} {s t : String}

theorem append (h : Steady depth s) (h' : Steady depth t) : Steady depth (s ++ t) := by
  rw [Steady, String.toList_append, List.foldlM_append, h]
  exact h'

theorem of_within (h : Within false s.toList false) : Steady depth s := foldlM_step?_of_within h depth

theorem of_isWord (h : IsWord s) : Steady depth s := of_within (Within.outside fun _ hc => plain_of_isPart (h.parts _ hc))

theorem intercalate {sep : String} (hsep : Steady depth sep) {ss : List String} (h : ∀ s ∈ ss, Steady depth s) :
    Steady depth (sep.intercalate ss) := by
  induction ss with
  | nil => rfl
  | cons s ss ih =>
    have hs := h s List.mem_cons_self
    cases ss with
    | nil => simpa using hs
    | cons t ss =>
      rw [String.intercalate_cons_cons]
      exact (hs.append hsep).append (ih fun u hu => h u (List.mem_cons_of_mem _ hu))

/-- In parentheses of its own a text may have commas. -/
theorem parenthesised (h : Steady (depth + 1) s) : Steady depth ("(" ++ s ++ ")") := by
  have hopen : "(".toList.foldlM Place.step? ⟨false, depth⟩ = some ⟨false, depth + 1⟩ := rfl
  have hclose : ")".toList.foldlM Place.step? ⟨false, depth + 1⟩ = some ⟨false, depth⟩ := rfl
  rw [Steady, String.toList_append, String.toList_append, List.foldlM_append, List.foldlM_append, hopen,
    Option.bind_eq_bind, Option.bind_some, h]
  exact hclose

end Steady

/-! ## Clauses of a definition -/

/-- A column's clause stays one clause if its type does. -/
theorem steady_clause {c : ColumnDefinition} (hn : IsWord c.name) (ht : ∀ t, c.type = .custom t → SelfContained t)
    (inlineKey : Bool) : Steady 0 (c.clause inlineKey) := by
  have htype : Steady 0 c.type.keyword := by
    cases hc : c.type with
    | custom t => exact ht t hc
    | _ => decide
  have hflag : ∀ {word : String} (b : Bool), Steady 0 word → ∀ s ∈ (if b then [word] else []), Steady 0 s := by
    intro word b hw
    cases b with
    | true => simpa using hw
    | false => simp
  refine Steady.intercalate (by decide) ?_
  rw [ColumnDefinition.constraints]
  simp only [List.forall_mem_cons, List.forall_mem_append]
  refine ⟨.of_isWord hn, htype, ⟨⟨hflag _ (by decide), hflag _ (by decide)⟩, hflag _ (by decide)⟩, ?_⟩
  cases c.default with
  | none => simp
  | some v =>
    have hword : Steady 0 "DEFAULT " := by decide
    simpa using hword.append (.of_within (within_literal v))

theorem clause_eq_append (c : ColumnDefinition) (inlineKey : Bool) :
    ∃ more, c.clause inlineKey = c.name ++ " " ++ more := by
  rw [ColumnDefinition.clause, String.intercalate_cons_cons]
  exact ⟨_, rfl⟩

namespace TableDefinition

variable {d : TableDefinition}

/-- What a definition must be for its clauses to be as they should. -/
structure Contained (d : TableDefinition) : Prop where
  name : IsWord d.name
  names : ∀ c ∈ d.columns, IsWord c.name
  types : d.TypesIn SelfContained

theorem Contained.of_validate (h : d.validate = .ok ()) (ht : d.TypesIn SelfContained) : d.Contained := by
  obtain ⟨hname, hcolumns⟩ := isValid_of_validate h
  exact ⟨isWord_of_isValid hname, fun c hc => isWord_of_isValid (hcolumns c hc), ht⟩

theorem keyClauses_eq (d : TableDefinition) :
    d.keyClauses = if d.isComposite then ["PRIMARY KEY (" ++ ", ".intercalate d.primaryKey ++ ")"] else [] := by
  have hlength : d.primaryKey.length = d.columns.countP (·.isPrimaryKey) := by
    rw [primaryKey, List.length_map, List.countP_eq_length_filter]
  rw [keyClauses, isComposite, hlength]
  simp only [decide_eq_true_eq]
  rfl

theorem clauses_eq (d : TableDefinition) : d.clauses = d.columns.map (·.clause !d.isComposite) ++ d.keyClauses := by
  rw [clauses, keyClauses_eq]

/-- The clause of the key, if there is one, is one clause. -/
theorem steady_keyClauses (h : d.Contained) : ∀ s ∈ d.keyClauses, Steady 0 s := by
  have hnames : ∀ n ∈ d.primaryKey, Steady 1 n := by
    intro n hn
    obtain ⟨c, hc, -, rfl⟩ := mem_primaryKey.1 hn
    exact .of_isWord (h.names c hc)
  have hcomma : Steady 1 ", " := by decide
  have hlist := (Steady.intercalate hcomma hnames).parenthesised
  have hword : Steady 0 "PRIMARY KEY " := by decide
  have hkey := hword.append hlist
  rw [← String.append_assoc, ← String.append_assoc] at hkey
  rw [keyClauses]
  split
  · simpa using hkey
  · simp

theorem steady_clauses (h : d.Contained) : ∀ s ∈ d.clauses, Steady 0 s := by
  rw [clauses_eq, List.forall_mem_append]
  refine ⟨fun s hs => ?_, steady_keyClauses h⟩
  obtain ⟨c, hc, rfl⟩ := List.mem_map.1 hs
  exact steady_clause (h.names c hc) (h.types c hc) _

end TableDefinition

/-! ## Splitting a statement -/

namespace Body

open Place

/-- What stays in its clause goes on with it. -/
theorem split?_append {p q : Place} {cs : List Char} (h : cs.foldlM step? p = some q) (w rest : List Char) :
    split? p w (cs ++ rest) = split? q (w ++ cs) rest := by
  induction cs generalizing p w with
  | nil =>
    cases h
    rw [List.nil_append, List.append_nil]
  | cons c cs ih =>
    obtain ⟨p', hc, htail⟩ := exists_of_foldlM_cons h
    rw [List.cons_append, split?, hc]
    dsimp only
    rw [ih htail, List.append_assoc, List.singleton_append]

/-- Clauses with commas between them are what the body is split into, the others with the blank before them. -/
theorem split?_intercalate {s : String} {ss : List String} (hs : SelfContained s) (hss : ∀ t ∈ ss, SelfContained t)
    (w rest : List Char) : split? start w ((", ".intercalate (s :: ss)).toList ++ ')' :: rest) =
      some ((w ++ s.toList) :: ss.map fun t => ' ' :: t.toList, rest) := by
  induction ss generalizing s w with
  | nil =>
    rw [String.intercalate_singleton, split?_append hs]
    rfl
  | cons t ss ih =>
    have ih := ih (hss t List.mem_cons_self) (fun u hu => hss u (List.mem_cons_of_mem _ hu)) [' ']
    have hcomma : ∀ v cs, split? start v (',' :: ' ' :: cs) =
        (split? start [' '] cs).map fun (ws, rest) => (v :: ws, rest) := fun _ _ => rfl
    have htext : (", ".intercalate (s :: t :: ss)).toList ++ ')' :: rest =
        s.toList ++ (',' :: ' ' :: ((", ".intercalate (t :: ss)).toList ++ ')' :: rest)) := by
      rw [String.intercalate_cons_cons, String.toList_append, String.toList_append, List.append_assoc, List.append_assoc]
      rfl
    rw [htext, split?_append hs, hcomma, ih]
    rfl

theorem split?_ne_nil {p : Place} {w cs : List Char} {ws : List (List Char)} {rest : List Char}
    (h : split? p w cs = some (ws, rest)) : ws ≠ [] := by
  induction cs generalizing p w ws with
  | nil => cases h
  | cons c cs ih =>
    rw [split?] at h
    split at h
    · exact ih h
    · split at h
      · obtain ⟨⟨vs, _⟩, -, he⟩ := Option.map_eq_some_iff.1 h
        cases he
        exact List.cons_ne_nil _ _
      · cases h
        exact List.cons_ne_nil _ _

/-- If the rest of a body is one clause, that closes what it opens. -/
theorem eq_of_split?_singleton {p : Place} {w v cs rest : List Char} (h : split? p w cs = some ([v], rest)) :
    ∃ bs, cs = bs ++ ')' :: rest ∧ bs.foldlM step? p = some start := by
  induction cs generalizing p w with
  | nil => cases h
  | cons c cs ih =>
    rw [split?] at h
    split at h
    · next q hc =>
      obtain ⟨bs, rfl, hbs⟩ := ih h
      refine ⟨c :: bs, rfl, ?_⟩
      rw [List.foldlM_cons, hc]
      exact hbs
    · next hc =>
      split at h
      · -- a comma of the body would have left a second clause
        obtain ⟨⟨vs, _⟩, hvs, he⟩ := Option.map_eq_some_iff.1 h
        cases he
        exact absurd rfl (split?_ne_nil hvs)
      · next hcomma =>
        cases h
        obtain ⟨rfl, rfl⟩ : c = ')' ∧ p = start := by
          obtain ⟨quoted, depth⟩ := p
          simp only [step?] at hc
          split_ifs at hc with _ hquoted _ hdepth hmark
          obtain rfl : depth = 0 := hdepth
          exact ⟨hmark.resolve_left hcomma, by simpa [start] using hquoted⟩
        exact ⟨[], rfl, rfl⟩

/-- The clauses of a statement that has nothing but words in front of its body. -/
theorem ofSql?_append {head : String} (h : head.toList.all (· ≠ '(')) (body : String) :
    ofSql? (head ++ "(" ++ body) = (split? start [] body.toList).map fun (ws, rest) =>
      (if ws.map trimmed = [""] then [] else ws.map trimmed, String.ofList rest) := by
  have hbody : (head ++ "(" ++ body).toList.dropWhile (· ≠ '(') = '(' :: body.toList := by
    rw [String.toList_append, String.toList_append, List.append_assoc,
      List.dropWhile_append_of_pos (List.all_eq_true.1 h)]
    rfl
  rw [ofSql?, hbody]
  rfl

theorem trimmed_toList {s : String} (h : ∀ c ∈ s.toList.head?, c ≠ ' ') : trimmed s.toList = s := by
  have hstop : s.toList.dropWhile (· = ' ') = s.toList := by
    cases hs : s.toList with
    | nil => rfl
    | cons c cs => simp [h c (by simp [hs])]
  rw [trimmed, hstop, String.ofList_toList]

/-- **A body is split into the clauses that it was put together from**, if each is one. -/
theorem ofSql?_clauses {head : String} (hhead : head.toList.all (· ≠ '(')) {ss : List String}
    (hss : ∀ s ∈ ss, SelfContained s) (hblank : ∀ s ∈ ss, s ≠ "" ∧ ∀ c ∈ s.toList.head?, c ≠ ' ') (rest : String) :
    ofSql? (head ++ "(" ++ (", ".intercalate ss ++ ")" ++ rest)) = some (ss, rest) := by
  have htext : (", ".intercalate ss ++ ")" ++ rest).toList = (", ".intercalate ss).toList ++ ')' :: rest.toList := by
    rw [String.toList_append, String.toList_append, List.append_assoc]
    rfl
  rw [ofSql?_append hhead, htext]
  cases ss with
  | nil => simp [split?, step?, start, trimmed]
  | cons s ss =>
    have htrimmed : ∀ u ∈ s :: ss, trimmed u.toList = u := fun u hu => trimmed_toList (hblank u hu).2
    have hmap : ((s.toList :: ss.map fun u => ' ' :: u.toList).map trimmed) = s :: ss := by
      rw [List.map_cons, List.map_map, htrimmed s List.mem_cons_self]
      congr 1
      have hid : ss.map (trimmed ∘ fun u => ' ' :: u.toList) = ss.map id :=
        List.map_congr_left fun u hu => htrimmed u (List.mem_cons_of_mem _ hu)
      rw [hid, List.map_id]
    have hne : s :: ss ≠ [""] := by
      rintro he
      cases he
      exact (hblank "" List.mem_cons_self).1 rfl
    rw [split?_intercalate (hss s List.mem_cons_self) (fun u hu => hss u (List.mem_cons_of_mem _ hu)) [], Option.map_some]
    dsimp only
    rw [List.nil_append, hmap, if_neg hne, String.ofList_toList]

end Body

namespace TableDefinition

variable {d : TableDefinition}

/-- The text in front of the body. -/
def opening (d : TableDefinition) : String :=
  "CREATE " ++ (if d.options.temporary then "TEMPORARY " else "") ++ "TABLE "
    ++ (if d.options.ifNotExists then "IF NOT EXISTS " else "") ++ d.name ++ " "

theorem createSql_eq (d : TableDefinition) :
    d.createSql = d.opening ++ "(" ++ (", ".intercalate d.clauses ++ ")" ++ optionText d.options) := by
  have htrailing : (if d.trailing.isEmpty then "" else " " ++ ", ".intercalate d.trailing) = optionText d.options := by
    obtain ⟨name, columns, ifNotExists, temporary, withoutRowId, strict⟩ := d
    cases withoutRowId <;> cases strict <;> rfl
  have hbody : ∀ s : String, " (" ++ s = " " ++ ("(" ++ s) := fun s => by rw [← String.append_assoc]; rfl
  rw [createSql, htrailing, opening]
  simp only [String.append_assoc, hbody]

theorem all_opening (h : IsWord d.name) : d.opening.toList.all (· ≠ '(') := by
  have hname : d.name.toList.all (· ≠ '(') := by
    refine List.all_eq_true.2 fun c hc => ?_
    have hpart := h.parts c hc
    rw [decide_eq_true_eq]
    rintro rfl
    exact absurd hpart (by decide)
  have htemporary : (if d.options.temporary then "TEMPORARY " else "").toList.all (· ≠ '(') := by
    split <;> decide
  have hexists : (if d.options.ifNotExists then "IF NOT EXISTS " else "").toList.all (· ≠ '(') := by
    split <;> decide
  simp only [opening, String.toList_append, List.all_append, hname, htemporary, hexists]
  decide

/-- A text that starts with a word does not start with a blank. -/
theorem starts_of_isWord {w : String} (h : IsWord w) (s : String) :
    w ++ s ≠ "" ∧ ∀ c ∈ (w ++ s).toList.head?, c ≠ ' ' := by
  obtain ⟨c, cs, hw⟩ := List.exists_cons_of_ne_nil (mt String.toList_eq_nil_iff.1 h.nonempty)
  have hc : c ≠ ' ' := by
    rintro rfl
    exact absurd (h.parts ' ' (by simp [hw])) (by decide)
  refine ⟨fun he => ?_, by simpa [String.toList_append, hw] using hc⟩
  have := congrArg String.toList he
  simp [String.toList_append, hw] at this

/-- Every clause starts with a word. -/
theorem starts_of_mem_clauses (h : d.Contained) : ∀ s ∈ d.clauses, s ≠ "" ∧ ∀ c ∈ s.toList.head?, c ≠ ' ' := by
  rw [clauses_eq, List.forall_mem_append]
  constructor
  · intro s hs
    obtain ⟨c, hc, rfl⟩ := List.mem_map.1 hs
    obtain ⟨more, hmore⟩ := clause_eq_append c !d.isComposite
    rw [hmore, String.append_assoc]
    exact starts_of_isWord (h.names c hc) _
  · have hword : IsWord "PRIMARY" := ⟨by decide, List.all_eq_true.1 (by decide)⟩
    have htext : "PRIMARY KEY (" = "PRIMARY" ++ " KEY (" := by decide
    rw [keyClauses]
    split
    · rw [List.forall_mem_singleton, htext, String.append_assoc, String.append_assoc]
      exact starts_of_isWord hword _
    · simp

/-- The statement is split into the clauses that it was put together from. -/
theorem Contained.ofSql?_createSql (h : d.Contained) :
    Body.ofSql? d.createSql = some (d.clauses, optionText d.options) := by
  rw [createSql_eq]
  exact Body.ofSql?_clauses (all_opening h.name) (steady_clauses h) (starts_of_mem_clauses h) _

theorem Contained.guarded (h : d.Contained) : d.Guarded := by
  refine ⟨d.columns.map (·.clause !d.isComposite), ?_, ?_⟩
  · rw [← clauses_eq, h.ofSql?_createSql]
  · exact List.forall₂_map_right_iff.2 (List.forall₂_same.2 fun c _ => clause_eq_append c _)

/-- A table with one column of this type. -/
def single (t : String) : TableDefinition := ⟨"t", [.ofType "c" (.custom t)], .none⟩

theorem validate_single (t : String) : (single t).validate = .ok () := by
  have hname : validateName "t" = .ok "t" := by rfl
  have hcolumn : validateName "c" = .ok "c" := by rfl
  rw [validate, single, hname]
  show (validateColumn false (.ofType "c" (.custom t)) >>= fun _ => pure ()) = _
  rw [validateColumn, ColumnDefinition.ofType, hcolumn]
  rfl

theorem typesIn_single (t : String) : (single t).TypesIn (· = t) := by
  intro c hc s hs
  obtain rfl : c = .ofType "c" (.custom t) := by simpa [single] using hc
  exact (ColumnType.custom.inj hs).symm

/-- The statement of such a table is split into one clause only if its type is self-contained. -/
theorem selfContained_of_guarded {t : String} (h : (single t).Guarded) : SelfContained t := by
  obtain ⟨own, hsplit, hown⟩ := h
  have hword : IsWord "t" := ⟨by decide, List.all_eq_true.1 (by decide)⟩
  rw [createSql_eq, Body.ofSql?_append (all_opening hword)] at hsplit
  obtain ⟨⟨ws, rest⟩, hws, he⟩ := Option.map_eq_some_iff.1 hsplit
  obtain ⟨hclauses, hrest⟩ := Prod.mk.inj he
  have hlength : ws.length = 1 := by
    have hone : (own ++ (single t).keyClauses).length = 1 := by
      rw [List.length_append, ← hown.length_eq]
      rfl
    rw [← hclauses] at hone
    split at hone
    · cases hone
    · rwa [List.length_map] at hone
  obtain ⟨v, rfl⟩ := List.length_eq_one_iff.1 hlength
  obtain ⟨bs, hbs, hfold⟩ := Body.eq_of_split?_singleton hws
  obtain rfl : rest = [] := by
    have := congrArg String.toList hrest
    rwa [String.toList_ofList] at this
  have htext : (", ".intercalate (single t).clauses ++ ")" ++ optionText (single t).options).toList =
      ('c' :: ' ' :: t.toList) ++ [')'] := by
    have hclauses : (single t).clauses = ["c " ++ t] := by
      rw [clauses_eq]
      show [" ".intercalate ["c", t]] = _
      rw [String.intercalate_cons_cons, String.intercalate_singleton]
      rfl
    rw [hclauses, String.intercalate_singleton]
    simp [String.toList_append, single, optionText, TableOptions.none]
  rw [htext] at hbs
  rw [← List.append_cancel_right hbs] at hfold
  exact hfold

/--
**What the check of a definition guards.** Whatever custom types are in use, the statements of the definitions that are
accepted have one clause for each column, in order, and one for a key of two or more columns, and only options behind
them, exactly if each of the types is part of one clause by itself.
-/
theorem guarded_iff (types : String → Prop) : (∀ t, types t → SelfContained t) ↔
    ∀ d : TableDefinition, d.validate = .ok () → d.TypesIn types → d.Guarded := by
  refine ⟨fun h d hd ht => (Contained.of_validate hd fun c hc t hct => h t (ht c hc t hct)).guarded, fun h t ht => ?_⟩
  exact selfContained_of_guarded (h (single t) (validate_single t) fun c hc s hs => typesIn_single t c hc s hs ▸ ht)

/-- An invoice has an amount of a type with a comma between parentheses, and two key columns. -/
def invoice : TableDefinition where
  name := "invoice"
  columns := [
    ⟨"id", .integer, true, false, false, none⟩,
    ⟨"amount", .custom "DECIMAL(10, 2)", false, true, false, some (.text "it's, ) or (")⟩,
    ⟨"year", .custom "VARCHAR(4) DEFAULT ',)'", true, false, true, none⟩]
  options := ⟨true, false, true, false⟩

theorem guarded_invoice : invoice.Guarded ∧ Body.ofSql? invoice.createSql = some
    (["id INTEGER", "amount DECIMAL(10, 2) NOT NULL DEFAULT 'it''s, ) or ('", "year VARCHAR(4) DEFAULT ',)' UNIQUE",
      "PRIMARY KEY (id, year)"], " WITHOUT ROWID") := by
  have hvalid : invoice.validate = .ok () := rfl
  have htypes : invoice.TypesIn SelfContained := by
    intro c hc t ht
    simp only [invoice, List.mem_cons, List.not_mem_nil, or_false] at hc
    rcases hc with rfl | rfl | rfl <;> cases ht <;> decide
  refine ⟨(guarded_iff SelfContained).1 (fun _ => id) invoice hvalid htypes, ?_⟩
  have hclauses : invoice.clauses = ["id INTEGER", "amount DECIMAL(10, 2) NOT NULL DEFAULT 'it''s, ) or ('",
    "year VARCHAR(4) DEFAULT ',)' UNIQUE", "PRIMARY KEY (id, year)"] := by decide +kernel
  rw [(Contained.of_validate hvalid htypes).ofSql?_createSql, hclauses]
  rfl

/-- A type can declare a column that the definition does not have. -/
theorem not_guarded_of_validate : ¬∀ d : TableDefinition, d.validate = .ok () → d.Guarded := by
  intro h
  have hcontained := selfContained_of_guarded (h _ (validate_single "TEXT, admin BOOLEAN"))
  exact absurd hcontained (by decide)

end TableDefinition

end TypedStorage
