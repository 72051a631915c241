/-
The statement that creates a table is faithful to its definition (`TableDefinition.faithful`): as long as the
definition is valid, its columns have different names and no type is one of its own, the text says everything
about the table but how a default was given, so two definitions write the same statement only if they declare the
same table. The statement is read back (`ofSql?_createSql`) by a reader that never has to look back: a column's
clause ends at a comma or a parenthesis, and no literal has one outside its quotes. The key is read from two places,
from the columns or from the clause after them, and the names of the columns tell which of them are meant.
-/
import TypedStorage.Proofs.Schema.Cut

namespace TypedStorage

open Token Item ItemReader

/-! ## Clauses -/

theorem Avoids.of_head {t u : Token} {s : String} (hs : (lex s).head? = some u) (h : u ≠ t) (rest : List Item) :
    Avoids t (Item.fixed s ++ rest) := by
  obtain ⟨ts, hts⟩ := List.head?_eq_some_iff.1 hs
  exact .fixed ⟨by simp [hts], by simpa [hts] using h⟩ rest

/-- A clause may end here. -/
def EndsClause (rest : List Item) : Prop := ∀ w, Avoids (.word w) rest

theorem EndsClause.fixed {s : String} {c : Char} (h : (lex s).head? = some (.mark c)) (rest : List Item) :
    EndsClause (fixed s ++ rest) := fun _ => .of_head h Token.noConfusion rest

theorem flag?_flagged {s : String} (b : Bool) {rest : List Item} (h : after? s rest = none) :
    flag? s (flagged s b ++ rest) = some (b, rest) := by
  cases b with
  | true => simp [flag?, flagged, after?_fixed]
  | false => simp [flag?, flagged, h]

theorem avoids_flagged {t u : Token} {s : String} (hs : (lex s).head? = some u) (h : u ≠ t) (b : Bool)
    {rest : List Item} (hr : Avoids t rest) : Avoids t (flagged s b ++ rest) := by
  cases b with
  | true => exact .of_head hs h rest
  | false => exact hr

theorem type?_keyword {t : ColumnType} (h : t ∈ ColumnType.builtIn) (rest : List Item) :
    type? (fixed t.keyword ++ rest) = some (t, rest) := by
  simp only [ColumnType.builtIn, List.mem_cons, List.not_mem_nil, or_false] at h
  rcases h with rfl | rfl | rfl | rfl | rfl | rfl | rfl | rfl | rfl <;> rfl

theorem avoids_default {w : String} (hw : w ≠ "DEFAULT") (default : Option String) {rest : List Item}
    (hr : Avoids (.word w) rest) : Avoids (.word w) (ofDefault default ++ rest) := by
  cases default with
  | some l =>
    rw [ofDefault, List.append_assoc]
    exact .of_head (u := .word "DEFAULT") rfl (by simpa using hw.symm) _
  | none => exact hr

theorem default?_ofDefault (default : Option String) {rest : List Item} (hr : EndsClause rest) :
    default? (ofDefault default ++ rest) = some (default, rest) := by
  cases default with
  | some l =>
    rw [ofDefault, List.append_assoc, default?, after?_fixed]
    rfl
  | none =>
    have hnone : after? "DEFAULT" rest = none := after?_eq_none (t := .word "DEFAULT") rfl (hr "DEFAULT")
    simp only [default?, ofDefault, List.nil_append, hnone]

/-- A column is read to the end of its clause. -/
theorem column?_items {c : DeclaredColumn} (hn : IsWord c.name) (ht : c.type ∈ ColumnType.builtIn) {rest : List Item}
    (hr : EndsClause rest) : column? (c.items ++ rest) = some (c, rest) := by
  have hdefault : ∀ {w}, w ≠ "DEFAULT" → Avoids (.word w) (ofDefault c.default ++ rest) :=
    fun hw => avoids_default hw c.default (hr _)
  have hunique : ∀ {w}, w ≠ "DEFAULT" ∧ w ≠ "UNIQUE" →
      Avoids (.word w) (flagged "UNIQUE" c.unique ++ (ofDefault c.default ++ rest)) := by
    intro w hw
    exact avoids_flagged (u := .word "UNIQUE") rfl (by simpa using hw.2.symm) c.unique (hdefault hw.1)
  have hnotNull : Avoids (.word "PRIMARY")
      (flagged "NOT NULL" c.notNull ++ (flagged "UNIQUE" c.unique ++ (ofDefault c.default ++ rest))) :=
    avoids_flagged (u := .word "NOT") rfl (by decide) c.notNull (hunique (by decide))
  have hreadKey := flag?_flagged c.key (after?_eq_none (s := "PRIMARY KEY") rfl hnotNull)
  have hreadNotNull := flag?_flagged c.notNull
    (after?_eq_none (t := .word "NOT") (s := "NOT NULL") rfl (hunique (by decide)))
  have hreadUnique := flag?_flagged c.unique
    (after?_eq_none (t := .word "UNIQUE") (s := "UNIQUE") rfl (hdefault (by decide)))
  simp only [DeclaredColumn.items, List.append_assoc, column?, name?_fixed hn, type?_keyword ht, hreadKey, hreadNotNull,
    hreadUnique, default?_ofDefault c.default hr, Option.bind_eq_bind, Option.bind_some, Option.pure_def]

/-- A clause that can be told from one of the other kind. -/
def TableClause.Legible : TableClause → Prop
  | .column c => IsWord c.name ∧ c.name ≠ "PRIMARY" ∧ c.type ∈ ColumnType.builtIn
  | .key columns => columns ≠ [] ∧ ∀ n ∈ columns, IsWord n

theorem clause?_items {c : TableClause} (h : c.Legible) {rest : List Item} (hr : EndsClause rest) :
    clause? (c.items ++ rest) = some (c, rest) := by
  cases c with
  | column c =>
    obtain ⟨hn, hp, ht⟩ := h
    have hother : after? "PRIMARY KEY" (c.items ++ rest) = none := by
      refine after?_eq_none (t := .word "PRIMARY") rfl ?_
      rw [DeclaredColumn.items, List.append_assoc, fixed_word hn]
      simpa [Avoids] using hp
    rw [clause?, TableClause.items, hother]
    simp only [column?_items hn ht hr, Option.map_some]
  | key columns =>
    have hnames := bracketed?_bracketed h.1 (fun n hn => name?_fixed (h.2 n hn)) rest
    rw [clause?, TableClause.items, List.append_assoc, after?_fixed]
    simp only [hnames, Option.map_some]

theorem TableClause.avoids_mark {c : TableClause} (h : c.Legible) (rest : List Item) :
    Avoids (.mark ')') (c.items ++ rest) := by
  cases c with
  | column c =>
    rw [TableClause.items, DeclaredColumn.items, List.append_assoc, fixed_word h.1]
    simp [Avoids]
  | key columns =>
    rw [TableClause.items, List.append_assoc]
    exact .of_head (u := .word "PRIMARY") rfl (by decide) _

theorem listed_cons (sep : String) (p : List Item) (ps : List (List Item)) : ∃ js, listed sep (p :: ps) = p ++ js := by
  cases ps with
  | nil => exact ⟨[], by simp [listed]⟩
  | cons q ps =>
    exact ⟨fixed sep ++ listed sep (q :: ps), by rw [listed, listed, List.intercalate_cons_cons, List.append_assoc]⟩

theorem clauses?_items {cs : List TableClause} (h : ∀ c ∈ cs, c.Legible) (rest : List Item) :
    clauses? (bracketed (cs.map TableClause.items) ++ rest) = some (cs, rest) := by
  cases cs with
  | nil => rfl
  | cons c cs =>
    have hword : Avoids (.mark ')') (listed "," ((c :: cs).map TableClause.items) ++ fixed ")" ++ rest) := by
      obtain ⟨js, hjs⟩ := listed_cons "," c.items (cs.map TableClause.items)
      rw [List.map_cons, hjs, List.append_assoc, List.append_assoc]
      exact TableClause.avoids_mark (h c List.mem_cons_self) _
    have hopen : after? "()" (bracketed ((c :: cs).map TableClause.items) ++ rest) = none :=
      after?_eq_none (t := .mark ')') (s := ")") rfl hword
    rw [clauses?, hopen]
    exact bracketed?_follows (List.cons_ne_nil c cs) (fun x hx _ hr => clause?_items (h x hx) hr)
      (EndsClause.fixed rfl) (EndsClause.fixed rfl) rest

/-! ## Statements -/

namespace CreateStatement

structure Legible (s : CreateStatement) : Prop where
  name : IsWord s.name
  clauses : ∀ c ∈ s.clauses, c.Legible

theorem ofItems?_items {s : CreateStatement} (h : s.Legible) : ofItems? s.items = some s := by
  obtain ⟨name, ⟨ifNotExists, temporary, withoutRowId, strict⟩, clauses⟩ := s
  have hn : IsWord name := h.name
  have htable : ∀ rest, after? "TEMPORARY" (fixed "TABLE" ++ rest) = none :=
    fun rest => after?_fixed_other (by decide) rest
  have htemporary := fun rest => flag?_flagged temporary (htable rest)
  -- a table may have the name `IF`, but no parenthesis is the next word of the option
  have hname : ∀ rest,
      after? "IF NOT EXISTS" (fixed name ++ (bracketed (clauses.map TableClause.items) ++ rest)) = none := by
    intro rest
    rw [fixed_word hn]
    by_cases hif : name = "IF"
    · subst hif
      rfl
    · have : Token.word "IF" ≠ .word name := fun he => hif (Token.word.inj he).symm
      exact if_neg this
  have hexists := fun rest => flag?_flagged ifNotExists (hname rest)
  simp only [ofItems?, items, after?_fixed, htemporary, hexists, name?_fixed hn, clauses?_items h.clauses,
    Option.bind_eq_bind, Option.bind_some]
  cases withoutRowId <;> cases strict <;> rfl

end CreateStatement

/-! ## Definitions that are valid -/

theorem eq_ok_of_forM {ε α : Type} {f : α → Except ε Unit} {xs : List α} (h : xs.forM f = .ok ()) :
    ∀ x ∈ xs, f x = .ok () := by
  induction xs with
  | nil => simp
  | cons x xs ih =>
    have hcons : (f x >>= fun _ => xs.forM f) = .ok () := h
    cases hx : f x with
    | error e =>
      rw [hx] at hcons
      cases hcons
    | ok u =>
      rw [hx] at hcons
      intro y hy
      rcases List.mem_cons.1 hy with rfl | hy
      · exact hx
      · exact ih hcons y hy

/-- What is done after the name has been looked at succeeds only if the name is valid. -/
theorem isValid_of_validateName {n : String} {k : String → Except ValidationError Unit}
    (h : validateName n >>= k = .ok ()) : Identifier.isValid n ∧ k n = .ok () := by
  unfold validateName at h
  rw [Identifier.isValid]
  cases hf : Identifier.fault? n with
  | some fault =>
    rw [hf] at h
    cases h
  | none =>
    rw [hf] at h
    exact ⟨rfl, h⟩

theorem mem_builtIn {t : ColumnType} (h : ∀ n, t ≠ .custom n) : t ∈ ColumnType.builtIn := by
  cases t with
  | custom n => exact absurd rfl (h n)
  | _ => decide

namespace TableDefinition

/-- What the statement is faithful for: a valid definition whose columns have different names and built-in types. -/
structure Declarable (d : TableDefinition) : Prop where
  valid : d.validate = .ok ()
  distinct : (d.columns.map (·.name)).Nodup
  builtIn : ∀ c ∈ d.columns, ∀ n, c.type ≠ .custom n

/-- The names of a definition that is accepted are valid. -/
theorem isValid_of_validate {d : TableDefinition} (h : d.validate = .ok ()) :
    Identifier.isValid d.name ∧ ∀ c ∈ d.columns, Identifier.isValid c.name := by
  obtain ⟨hname, hcolumns⟩ := isValid_of_validateName h
  exact ⟨hname, fun c hc => (isValid_of_validateName (eq_ok_of_forM hcolumns c hc)).1⟩

theorem Declarable.legible {d : TableDefinition} (h : d.Declarable) : d.Legible := by
  obtain ⟨hname, hvalid⟩ := isValid_of_validate h.valid
  refine ⟨isWord_of_isValid hname, fun c hc => isWord_of_isValid (hvalid c hc), fun c hc he => ?_,
    fun c hc => mem_builtIn (h.builtIn c hc)⟩
  have := hvalid c hc
  rw [he] at this
  exact absurd this (by decide)

theorem Legible.declared {d : TableDefinition} (h : d.Legible) : d.declared.Legible where
  name := h.name
  clauses := by
    intro c hc
    rcases List.mem_append.1 hc with hc | hc
    · obtain ⟨e, he, rfl⟩ := List.mem_map.1 hc
      exact ⟨h.names e he, h.noKey e he, h.types e he⟩
    · cases hk : d.isComposite with
      | false => simp [hk] at hc
      | true =>
        obtain rfl : c = .key d.primaryKey := by simpa [hk] using hc
        refine ⟨fun hnil => ?_, h.keys⟩
        simp [isComposite, hnil] at hk

/-- The statement that creates a table is read back as what the definition declares. -/
theorem ofSql?_createSql {d : TableDefinition} (h : d.Legible) :
    CreateStatement.ofSql? d.createSql = some d.declared := by
  rw [CreateStatement.ofSql?, (cuts_createSql h).cut_eq, CreateStatement.ofItems?_items h.declared]

end TableDefinition

/-! ## What a statement says -/

/-- Equal but for the value of the default, which must have the same literal. -/
structure ColumnDefinition.Same (c c' : ColumnDefinition) : Prop where
  name : c.name = c'.name
  type : c.type = c'.type
  isPrimaryKey : c.isPrimaryKey = c'.isPrimaryKey
  isNotNull : c.isNotNull = c'.isNotNull
  isUnique : c.isUnique = c'.isUnique
  default : c.default.map Scalar.literal = c'.default.map Scalar.literal

structure TableDefinition.Same (d d' : TableDefinition) : Prop where
  name : d.name = d'.name
  options : d.options = d'.options
  columns : List.Forall₂ ColumnDefinition.Same d.columns d'.columns

/-- The statement is one for this table. -/
structure CreateStatement.Declares (s : CreateStatement) (d : TableDefinition) : Prop where
  name : s.name = d.name
  options : s.options = d.options
  /-- There is one clause for each column, with the key in it only if no other column has one. -/
  columns : s.columns = d.columns.map (ColumnDefinition.declared !d.isComposite)
  /-- Only two or more key columns have a clause of their own, the last one. -/
  clauses : s.clauses = s.columns.map TableClause.column ++ if d.isComposite then [.key d.primaryKey] else []

namespace TableDefinition

variable {d d' : TableDefinition}

theorem declares_declared (d : TableDefinition) : d.declared.Declares d := by
  have hcolumns : d.declared.columns = d.columns.map (ColumnDefinition.declared !d.isComposite) := by
    rw [CreateStatement.columns, declared, List.filterMap_append, List.filterMap_map]
    have hkey : (if d.isComposite then [TableClause.key d.primaryKey] else []).filterMap TableClause.column? = [] := by
      split <;> rfl
    rw [hkey, List.append_nil]
    exact congrFun List.filterMap_eq_map _
  refine ⟨rfl, rfl, hcolumns, ?_⟩
  rw [hcolumns, List.map_map]
  rfl

theorem map_eq_map_iff_forall₂ {α β γ : Type} {f : α → γ} {g : β → γ} {xs : List α} {ys : List β} :
    xs.map f = ys.map g ↔ List.Forall₂ (fun x y => f x = g y) xs ys := by
  rw [← List.forall₂_eq_eq_eq, List.forall₂_map_left_iff, List.forall₂_map_right_iff]

/-- Where names are different, the key columns are known by their names. -/
theorem Declarable.isPrimaryKey_eq (h : d.Declarable) :
    d.columns.map (·.isPrimaryKey) = (d.columns.map (·.name)).map fun n => decide (n ∈ d.primaryKey) := by
  rw [List.map_map]
  refine List.map_congr_left fun c hc => ?_
  have hiff : c.isPrimaryKey ↔ c.name ∈ d.primaryKey := by
    constructor
    · exact fun hk => mem_primaryKey.2 ⟨c, hc, hk, rfl⟩
    · intro hmem
      obtain ⟨e, he, hk, hname⟩ := mem_primaryKey.1 hmem
      rwa [List.inj_on_of_nodup_map h.distinct hc he hname.symm]
  simpa using Bool.eq_iff_iff.2 (by simpa using hiff)

/-- One statement does not say two different tables. -/
theorem Same.of_declares {s : CreateStatement} (h : d.Declarable) (h' : d'.Declarable) (hs : s.Declares d)
    (hs' : s.Declares d') : d.Same d' := by
  have hclauses := List.append_cancel_left (hs.clauses.symm.trans hs'.clauses)
  have hcolumns := hs.columns.symm.trans hs'.columns
  have hcomposite : d.isComposite = d'.isComposite := by
    cases hk : d.isComposite <;> cases hk' : d'.isComposite <;> simp [hk, hk'] at hclauses ⊢
  have hnames : d.columns.map (·.name) = d'.columns.map (·.name) := by
    simpa [ColumnDefinition.declared, Function.comp_def] using congrArg (List.map DeclaredColumn.name) hcolumns
  have hkeys : d.columns.map (·.isPrimaryKey) = d'.columns.map (·.isPrimaryKey) := by
    cases hk : d.isComposite with
    | false =>
      rw [← hcomposite, hk] at hcolumns
      simpa [ColumnDefinition.declared, Function.comp_def] using congrArg (List.map DeclaredColumn.key) hcolumns
    | true =>
      rw [← hcomposite, hk] at hclauses
      have hprimary : d.primaryKey = d'.primaryKey := by simpa using hclauses
      rw [h.isPrimaryKey_eq, h'.isPrimaryKey_eq, hnames, hprimary]
  refine ⟨hs.name.symm.trans hs'.name, hs.options.symm.trans hs'.options, ?_⟩
  rw [← hcomposite] at hcolumns
  refine List.Forall₂.mp (fun c c' hc hk => ?_) (map_eq_map_iff_forall₂.1 hcolumns) (map_eq_map_iff_forall₂.1 hkeys)
  simp only [ColumnDefinition.declared, DeclaredColumn.mk.injEq] at hc
  exact ⟨hc.1, hc.2.1, hk, hc.2.2.2.1, hc.2.2.2.2.1, hc.2.2.2.2.2⟩

/-! ## Equal statements -/

theorem Same.primaryKey_eq (h : d.Same d') : d.primaryKey = d'.primaryKey := by
  have hcolumns := h.columns
  rw [primaryKey, primaryKey]
  generalize d.columns = cs, d'.columns = cs' at hcolumns ⊢
  induction hcolumns with
  | nil => rfl
  | cons hc _ ih =>
    rw [List.filter_cons, List.filter_cons, hc.isPrimaryKey]
    split
    · rw [List.map_cons, List.map_cons, hc.name, ih]
    · exact ih

theorem clause_eq {c c' : ColumnDefinition} (h : c.Same c') (inlineKey : Bool) :
    c.clause inlineKey = c'.clause inlineKey := by
  obtain ⟨name, type, isPrimaryKey, isNotNull, isUnique, default⟩ := c
  obtain ⟨name', type', isPrimaryKey', isNotNull', isUnique', default'⟩ := c'
  obtain ⟨rfl, rfl, rfl, rfl, rfl, hdefault⟩ := h
  cases default with
  | none =>
    cases default' with
    | none => rfl
    | some v' => cases hdefault
  | some v =>
    cases default' with
    | none => cases hdefault
    | some v' =>
      have hliteral : v.literal = v'.literal := Option.some.inj hdefault
      simp only [ColumnDefinition.clause, ColumnDefinition.constraints, hliteral]

theorem Same.createSql_eq (h : d.Same d') : d.createSql = d'.createSql := by
  have hcomposite : d.isComposite = d'.isComposite := by rw [isComposite, isComposite, h.primaryKey_eq]
  have hclauses : d.clauses = d'.clauses := by
    have hcolumns : d.columns.map (·.clause !d.isComposite) = d'.columns.map (·.clause !d.isComposite) :=
      map_eq_map_iff_forall₂.2 (h.columns.imp fun c c' hc => clause_eq hc _)
    rw [clauses, clauses, hcolumns, hcomposite, h.primaryKey_eq]
  have htrailing : d.trailing = d'.trailing := by rw [trailing, trailing, h.options]
  rw [createSql, createSql, h.name, h.options, hclauses, htrailing]

/-- What the statement that creates a table tells of it. -/
structure Faithful (d : TableDefinition) : Prop where
  /-- Another definition has this statement exactly if it declares the same table. -/
  same : ∀ d' : TableDefinition, d'.Declarable → (d.createSql = d'.createSql ↔ d.Same d')
  /-- The text can be read: it has as many clauses as there are to be, and the literal of a default is read whole. -/
  read : ∃ s, CreateStatement.ofSql? d.createSql = some s ∧ s.Declares d
  /-- With two or more key columns none has the key in its clause; one clause after them all lists them in order. -/
  composite : 1 < d.primaryKey.length → ∃ s, CreateStatement.ofSql? d.createSql = some s ∧
    s.columns.length = d.columns.length ∧ (∀ c ∈ s.columns, c.key = false) ∧
    s.clauses = s.columns.map TableClause.column ++ [.key d.primaryKey]

/-- **The statement that creates a table is faithful to its definition.** -/
theorem faithful (h : d.Declarable) : d.Faithful := by
  have hread := ofSql?_createSql h.legible
  have hdeclares := declares_declared d
  refine ⟨fun d' h' => ⟨fun he => ?_, Same.createSql_eq⟩, ⟨d.declared, hread, hdeclares⟩, fun hk => ?_⟩
  · have hread' := ofSql?_createSql h'.legible
    rw [← he, hread, Option.some.injEq] at hread'
    exact Same.of_declares h h' hdeclares (hread' ▸ declares_declared d')
  · have hcomposite : d.isComposite = true := by simpa [isComposite] using hk
    have hclauses := hdeclares.clauses
    rw [hcomposite, if_pos rfl] at hclauses
    refine ⟨d.declared, hread, by simp [hdeclares.columns], fun c hc => ?_, hclauses⟩
    rw [hdeclares.columns, hcomposite] at hc
    obtain ⟨e, -, rfl⟩ := List.mem_map.1 hc
    simp [ColumnDefinition.declared]

/-- Two key columns, and defaults that read like the end of a column's clause. -/
def shipment : TableDefinition where
  name := "IF"
  columns := [
    ⟨"a", .integer, true, false, false, none⟩,
    ⟨"b", .text, false, true, false, some (.text "it's, x) UNIQUE, PRIMARY KEY (b")⟩,
    ⟨"c", .blob, true, false, true, some (.blob [0xC0, 0xDE])⟩]
  options := ⟨true, false, true, true⟩

theorem faithful_shipment : shipment.Declarable ∧ shipment.Faithful ∧ shipment.primaryKey = ["a", "c"] ∧
    shipment.createSql = "CREATE TABLE IF NOT EXISTS IF (a INTEGER, "
      ++ "b TEXT NOT NULL DEFAULT 'it''s, x) UNIQUE, PRIMARY KEY (b', c BLOB UNIQUE DEFAULT X'C0DE', "
      ++ "PRIMARY KEY (a, c)) WITHOUT ROWID, STRICT" := by
  have hvalid : shipment.validate = .ok () := rfl
  have hbuiltIn : ∀ c ∈ shipment.columns, ∀ n, c.type ≠ .custom n := by
    intro c hc n
    simp only [shipment, List.mem_cons, List.not_mem_nil, or_false] at hc
    rcases hc with rfl | rfl | rfl <;> nofun
  have h : shipment.Declarable := ⟨hvalid, by decide, hbuiltIn⟩
  exact ⟨h, faithful h, rfl, by decide +kernel⟩

end TableDefinition

end TypedStorage
