/-
How the statement that creates a table is cut into words and marks. A literal is one word whatever the scalar is:
outside quotes it has no mark in it, and a quote inside a text is doubled, so that every quote that is opened is
closed (`cuts_literal`). Every other part starts and ends with a word, with blanks, commas and parentheses between
them, and so the items of a statement are read off its parts one by one (`cuts_createSql`).
-/
import TypedStorage.Proofs.Double.Text
import TypedStorage.Proofs.Query.Unambiguous
import TypedStorage.Proofs.Schema.Reader

namespace TypedStorage

open Token Item

/-! ## Seams -/

/-- Nothing follows that could go on a word. -/
def EndsWord (rest : List Char) : Prop := ∀ c ∈ rest.head?, isMark c

theorem EndsWord.cons {c : Char} (h : isMark c) (rest : List Char) : EndsWord (c :: rest) := by
  simpa [EndsWord] using h

/-- The text falls into these items wherever a word may end after it. -/
def Cuts (s : String) (is : List Item) : Prop :=
  ∀ rest, EndsWord rest →
    (cutFrom false [] (s.toList ++ rest)).map Item.token = is ++ (cutFrom false [] rest).map Item.token

/-- A text without quotes. -/
def isBare (s : String) : Bool := s.toList.all fun c => Identifier.isPart c || isMark c

/-- Characters of a sort that has neither quotes nor marks in it go on a word. -/
theorem plain_of_sort {p : Char → Bool} (hp : ['\'', ' ', ',', '(', ')'].all fun d => !p d) {c : Char} (h : p c) :
    c ≠ '\'' ∧ isMark c = false := by
  have hne : ∀ d ∈ ['\'', ' ', ',', '(', ')'], c ≠ d := by
    rintro d hd rfl
    simpa [h] using List.all_eq_true.1 hp c hd
  simp only [List.forall_mem_cons] at hne
  simp [isMark, hne]

theorem plain_of_isPart {c : Char} (h : Identifier.isPart c) : c ≠ '\'' ∧ isMark c = false := plain_of_sort (by decide) h

theorem cutFrom_ended {rest : List Char} (h : EndsWord rest) (w : List Char) :
    cutFrom false w rest = ofChars w ++ cutFrom false [] rest := by
  cases rest with
  | nil => simp [cutFrom, ofChars]
  | cons c cs =>
    have hc : isMark c := h c rfl
    simp [cutFrom, hc, ofChars]

/-- Without quotes the text is cut where it would be cut anyway. -/
theorem cutFrom_bare {cs rest : List Char} (h : ∀ c ∈ cs, Identifier.isPart c ∨ isMark c) (hr : EndsWord rest)
    (w : List Char) : cutFrom false w (cs ++ rest) = lexFrom w cs ++ cutFrom false [] rest := by
  induction cs generalizing w with
  | nil => exact cutFrom_ended hr w
  | cons c cs ih =>
    have ih := ih fun d hd => h d (List.mem_cons_of_mem _ hd)
    rw [List.cons_append, cutFrom, lexFrom]
    by_cases hp : Identifier.isPart c
    · simp [hp, plain_of_isPart hp, ih]
    · have hm : isMark c := (h c List.mem_cons_self).resolve_left hp
      simp [hp, hm, ih]

theorem bare_chars {s : String} (h : isBare s) : ∀ c ∈ s.toList, Identifier.isPart c ∨ isMark c := by
  simpa [isBare] using h

theorem endsWord_append {m : String} (h : opens m ∧ isBare m) (rest : List Char) : EndsWord (m.toList ++ rest) := by
  have ho := h.1
  simp only [opens, Option.any_eq_true, Bool.not_eq_eq_eq_not, Bool.not_true] at ho
  obtain ⟨c, hc, hp⟩ := ho
  obtain ⟨cs, hcs⟩ := List.head?_eq_some_iff.1 hc
  have hm : isMark c := (bare_chars h.2 c (hcs ▸ List.mem_cons_self)).resolve_left (by simp [hp])
  rw [hcs]
  exact EndsWord.cons hm _

/-- A text that ends with a mark is cut by itself. -/
theorem cutFrom_closed {m : String} (h : closes m ∧ isBare m) (rest : List Char) :
    cutFrom false [] (m.toList ++ rest) = lex m ++ cutFrom false [] rest := by
  have hc := h.1
  simp only [closes, Option.any_eq_true, Bool.not_eq_eq_eq_not, Bool.not_true] at hc
  obtain ⟨c, hc, hp⟩ := hc
  obtain ⟨bs, hbs⟩ := List.getLast?_eq_some_iff.1 hc
  have hb := bare_chars h.2
  rw [hbs] at hb
  have hm : isMark c := (hb c (by simp)).resolve_left (by simp [hp])
  rw [lex, hbs, lexFrom_append hp, List.append_assoc, List.singleton_append,
    cutFrom_bare (fun d hd => hb d (List.mem_append_left _ hd)) (EndsWord.cons hm rest)]
  simp [cutFrom, lexFrom, hm, ofChars]

namespace Cuts

variable {s t : String} {is js : List Item}

theorem cut_eq (h : Cuts s is) : cut s = is := by
  have := h [] (by simp [EndsWord])
  simpa [cutFrom, ofChars, cut] using this

theorem of_bare (h : isBare s) : Cuts s (fixed s) := by
  intro rest hr
  rw [cutFrom_bare (bare_chars h) hr, List.map_append]
  rfl

theorem of_isWord {w : String} (h : IsWord w) : Cuts w (fixed w) :=
  of_bare (by simpa [isBare] using fun c hc => .inl (h.parts c hc))

/-- The text of a part with a fixed text in front of it. -/
theorem after (m m' : String) (hm : closes m ∧ isBare m ∧ lex m = lex m') (h : Cuts t js) :
    Cuts (m ++ t) (fixed m' ++ js) := by
  intro rest hr
  rw [String.toList_append, List.append_assoc, cutFrom_closed ⟨hm.1, hm.2.1⟩, List.map_append, h rest hr, hm.2.2,
    List.append_assoc]
  rfl

/-- The text of a part with a fixed text behind it. -/
theorem before (m m' : String) (hm : opens m ∧ isBare m ∧ lex m = lex m') (h : Cuts s is) :
    Cuts (s ++ m) (is ++ fixed m') := by
  intro rest hr
  rw [String.toList_append, List.append_assoc, h _ (endsWord_append ⟨hm.1, hm.2.1⟩ rest), of_bare hm.2.1 rest hr, fixed,
    hm.2.2, List.append_assoc]
  rfl

/-- The texts of two parts with a fixed text between them. -/
theorem between (m m' : String) (hm : opens m ∧ closes m ∧ isBare m ∧ lex m = lex m') (h : Cuts s is) (h' : Cuts t js) :
    Cuts (s ++ m ++ t) (is ++ (fixed m' ++ js)) := by
  intro rest hr
  rw [String.append_assoc, String.toList_append, List.append_assoc, String.toList_append, List.append_assoc,
    h _ (endsWord_append ⟨hm.1, hm.2.2.1⟩ _), cutFrom_closed ⟨hm.2.1, hm.2.2.1⟩, List.map_append, h' rest hr, hm.2.2.2]
  simp only [fixed, List.append_assoc]

/-- A word that may be left out, with what follows it. -/
theorem flag (m m' : String) (hm : closes m ∧ isBare m ∧ lex m = lex m') (b : Bool) (h : Cuts t js) :
    Cuts ((if b then m else "") ++ t) ((if b then fixed m' else []) ++ js) := by
  cases b with
  | true => exact after m m' hm h
  | false => simpa using h

/-- A text between any two of the parts. -/
theorem intercalate (m m' : String) (hm : opens m ∧ closes m ∧ isBare m ∧ lex m = lex m') {ss : List String}
    {iss : List (List Item)} (h : List.Forall₂ Cuts ss iss) : Cuts (m.intercalate ss) (listed m' iss) := by
  induction h with
  | nil =>
    intro rest _
    rfl
  | cons hs htail ih =>
    cases htail with
    | nil => simpa [listed] using hs
    | cons hs' htail =>
      rw [listed] at ih ⊢
      rw [String.intercalate_cons_cons, List.intercalate_cons_cons, List.append_assoc]
      exact between m m' hm hs ih

end Cuts

/-! ## Literals -/

/-- Read with the first state of the quotes, the text is part of one word and leaves the second. -/
def Goes (quoted : Bool) (cs : List Char) (quoted' : Bool) : Prop :=
  ∀ w rest, cutFrom quoted w (cs ++ rest) = cutFrom quoted' (w ++ cs) rest

/-- Whether a quote is open after a character of a word; outside quotes a mark is no part of one. -/
def Token.quoteStep? (quoted : Bool) (c : Char) : Option Bool :=
  if c = '\'' then some !quoted else if !quoted && isMark c then none else some quoted

theorem exists_of_foldlM_cons {α β : Type} {f : β → α → Option β} {x : α} {xs : List α} {s s' : β}
    (h : (x :: xs).foldlM f s = some s') : ∃ s₁, f s x = some s₁ ∧ xs.foldlM f s₁ = some s' := by
  rw [List.foldlM_cons] at h
  exact Option.bind_eq_some_iff.1 h

/-- No mark in the text stands outside quotes, with a quote open or not before it and after it. -/
def Within (quoted : Bool) (cs : List Char) (quoted' : Bool) : Prop := cs.foldlM quoteStep? quoted = some quoted'

namespace Within

variable {q r r' : Bool} {bs cs : List Char}

theorem nil (q : Bool) : Within q [] q := rfl

theorem append (h : Within q bs r) (h' : Within r cs r') : Within q (bs ++ cs) r' := by
  rw [Within, List.foldlM_append, h]
  exact h'

theorem quote (q : Bool) : Within q ['\''] !q := by cases q <;> rfl

theorem of_forall (h : ∀ c ∈ cs, c ≠ '\'' ∧ (q = false → isMark c = false)) : Within q cs q := by
  induction cs with
  | nil => exact nil q
  | cons c cs ih =>
    have hc : quoteStep? q c = some q := by
      have := h c List.mem_cons_self
      cases q <;> simp [quoteStep?, this]
    rw [Within, List.foldlM_cons, hc]
    exact ih fun d hd => h d (List.mem_cons_of_mem _ hd)

/-- Inside quotes there may be anything but a quote. -/
theorem inside (h : ∀ c ∈ cs, c ≠ '\'') : Within true cs true :=
  of_forall fun c hc => ⟨h c hc, by simp⟩

/-- Outside them there may be no mark. -/
theorem outside (h : ∀ c ∈ cs, c ≠ '\'' ∧ isMark c = false) : Within false cs false :=
  of_forall fun c hc => ⟨(h c hc).1, fun _ => (h c hc).2⟩

theorem between_quotes (h : Within true cs true) : Within false ('\'' :: (cs ++ ['\''])) false := by
  have hclosed : Within true (cs ++ ['\'']) false := append h (quote true)
  rw [← List.singleton_append]
  exact append (quote false) hclosed

/-- Such a text is part of one word. -/
theorem goes (h : Within q cs r) : Goes q cs r := by
  induction cs generalizing q with
  | nil =>
    cases h
    exact fun w rest => by rw [List.append_nil, List.nil_append]
  | cons c cs ih =>
    intro w rest
    obtain ⟨q', hc, htail⟩ := exists_of_foldlM_cons h
    have hstep : cutFrom q w (c :: (cs ++ rest)) = cutFrom q' (w ++ [c]) (cs ++ rest) := by
      revert hc
      by_cases hquote : c = '\'' <;> cases q <;> simp +contextual [quoteStep?, cutFrom, hquote, isMark]
    rw [List.cons_append, hstep, ih htail, List.append_assoc, List.singleton_append]

theorem cuts (hne : cs ≠ []) (h : Within false cs false) :
    Cuts (String.ofList cs) [.token (.word (String.ofList cs))] := by
  intro rest hr
  rw [String.toList_ofList, h.goes, List.nil_append, cutFrom_ended hr, ofChars, if_neg hne]
  rfl

end Within

theorem within_quoteLiteral (s : String) : Within false (Scalar.quoteLiteral s).toList false := by
  rw [Scalar.quoteLiteral, String.toList_ofList]
  refine Within.between_quotes ?_
  induction s.toList with
  | nil => exact .nil true
  | cons c cs ih =>
    rw [List.flatMap_cons]
    refine Within.append ?_ ih
    split
    · exact Within.append (Within.quote true) (Within.quote false)
    · next hc => exact Within.inside (by simpa using hc)

/-- The characters of a number, and of the names that stand for one. -/
def isNumberChar (c : Char) : Bool := c.isAlphanum || c = '-' || c = '.'

theorem isNumberChar_of_isDigit {c : Char} (h : c.isDigit) : isNumberChar c := by
  simp [isNumberChar, Char.isAlphanum, h]

theorem plain_of_isNumberChar {c : Char} (h : isNumberChar c) : c ≠ '\'' ∧ isMark c = false :=
  plain_of_sort (by decide) h

theorem isNumberChar_natDigits {n : Nat} {c : Char} (h : c ∈ Text.natDigits n) : isNumberChar c :=
  isNumberChar_of_isDigit (Text.isDigit_of_mem_natDigits h)

theorem isNumberChar_intDigits {i : Int} {c : Char} (h : c ∈ Text.intDigits i) : isNumberChar c := by
  unfold Text.intDigits at h
  split at h
  · rcases List.mem_cons.1 h with rfl | h
    · rfl
    · exact isNumberChar_natDigits h
  · exact isNumberChar_natDigits h

theorem isNumberChar_plainDigits {d : Decimal} {c : Char} (h : c ∈ Double.plainDigits d) : isNumberChar c := by
  rcases Int.lt_or_le d.exponent 0 with he | he
  · obtain ⟨whole, fraction, -, hwhole, hfraction, hplain, -⟩ := Double.plainDigits_of_neg he
    rw [hplain] at h
    rcases List.mem_append.1 h with h | h
    · exact isNumberChar_of_isDigit (hwhole c h)
    rcases List.mem_cons.1 h with rfl | h
    · rfl
    · exact isNumberChar_of_isDigit (hfraction c h)
  · obtain ⟨word, -, hword, hplain, -⟩ := Double.plainDigits_of_nonneg he
    exact isNumberChar_of_isDigit (hword c (hplain ▸ h))

theorem isNumberChar_textChars {x : Double} {c : Char} (h : c ∈ x.textChars) : isNumberChar c := by
  have hsigned : ∀ {negative : Bool} {cs : List Char}, (∀ c ∈ cs, isNumberChar c) →
      c ∈ Double.signed negative cs → isNumberChar c := by
    intro negative cs hcs hc
    cases negative with
    | false => exact hcs c hc
    | true =>
      rcases List.mem_cons.1 hc with rfl | hc
      · rfl
      · exact hcs c hc
  cases x with
  | nan => exact List.all_eq_true.1 (by decide : ['N', 'a', 'N'].all isNumberChar) c h
  | infinite n => exact hsigned (List.all_eq_true.1 (by decide : ['i', 'n', 'f'].all isNumberChar)) h
  | finite y => exact hsigned (fun _ => isNumberChar_plainDigits) h

theorem textChars_ne_nil (x : Double) : x.textChars ≠ [] := by
  have hsigned : ∀ {negative : Bool} {cs : List Char}, cs ≠ [] → Double.signed negative cs ≠ [] := by
    intro negative cs hcs
    cases negative with
    | false => exact hcs
    | true => exact List.cons_ne_nil _ _
  cases x with
  | nan => exact List.cons_ne_nil _ _
  | infinite n => exact hsigned (List.cons_ne_nil _ _)
  | finite y =>
    refine hsigned ?_
    obtain ⟨c, cs, -, h⟩ := Double.plainDigits_eq_cons (if y.rank = 0 then ⟨0, 0⟩ else y.shortest .up)
    rw [h]
    exact List.cons_ne_nil c cs

theorem ne_quote_of_mem_hex {bytes : List UInt8} {c : Char}
    (h : c ∈ (bytes.flatMap Text.hexByte).map Char.toUpper) : c ≠ '\'' := by
  have hdigit : ∀ n : Fin 16, n.val.digitChar.toUpper ≠ '\'' := by decide
  obtain ⟨d, hd, rfl⟩ := List.mem_map.1 h
  obtain ⟨b, -, hb⟩ := List.mem_flatMap.1 hd
  have hlt : b.toNat < 256 := b.toNat_lt
  simp only [Text.hexByte, List.mem_cons, List.not_mem_nil, or_false] at hb
  rcases hb with rfl | rfl
  · exact hdigit ⟨b.toNat / 16, by omega⟩
  · exact hdigit ⟨b.toNat % 16, by omega⟩

/-- What a literal opens it closes, whatever its text has in it. -/
theorem within_literal (v : Scalar) : Within false v.literal.toList false := by
  cases v with
  | null => rfl
  | text s => exact within_quoteLiteral s
  | integer i =>
    rw [Scalar.literal, Text.intText, String.toList_ofList]
    exact Within.outside fun c hc => plain_of_isNumberChar (isNumberChar_intDigits hc)
  | real x =>
    rw [Scalar.literal, Double.text, String.toList_ofList]
    exact Within.outside fun c hc => plain_of_isNumberChar (isNumberChar_textChars hc)
  | boolean b => cases b <;> rfl
  | blob bytes =>
    have hx : Within false ['X'] false := rfl
    rw [Scalar.literal, Scalar.blobLiteral, String.toList_ofList]
    rw [← List.singleton_append]
    exact Within.append hx (Within.between_quotes (Within.inside fun c hc => ne_quote_of_mem_hex hc))
  | timestamp t => exact within_quoteLiteral t.text
  | uuid u => exact within_quoteLiteral u.text
  | json d => exact within_quoteLiteral d.text

theorem literal_ne_nil (v : Scalar) : v.literal.toList ≠ [] := by
  have hquoted : ∀ s, (Scalar.quoteLiteral s).toList ≠ [] := by simp [Scalar.quoteLiteral, Scalar.quoteChars]
  cases v with
  | integer i =>
    rw [Scalar.literal, Text.intText, String.toList_ofList, Text.intDigits]
    split
    · exact List.cons_ne_nil _ _
    · exact Text.natDigits_ne_nil _
  | real x =>
    rw [Scalar.literal, Double.text, String.toList_ofList]
    exact textChars_ne_nil x
  | text | timestamp | uuid | json => exact hquoted _
  | null => decide
  | boolean b => cases b <;> decide
  | blob bytes => simp [Scalar.literal, Scalar.blobLiteral]

/-- **The literal of a scalar is one word.** -/
theorem cuts_literal (v : Scalar) : Cuts v.literal [.token (.word v.literal)] := by
  have := (within_literal v).cuts (literal_ne_nil v)
  rwa [String.ofList_toList] at this

/-! ## The items of a statement -/

/-- A fixed text that may be left out. -/
def Item.flagged (s : String) (b : Bool) : List Item := if b then fixed s else []

def Item.ofDefault : Option String → List Item
  | some w => fixed "DEFAULT" ++ [.token (.word w)]
  | none => []

/-- The parts of a column's clause, with blanks between them. -/
def DeclaredColumn.items (c : DeclaredColumn) : List Item :=
  fixed c.name ++ (fixed c.type.keyword ++ (flagged "PRIMARY KEY" c.key ++ (flagged "NOT NULL" c.notNull
    ++ (flagged "UNIQUE" c.unique ++ ofDefault c.default))))

def TableClause.items : TableClause → List Item
  | .column c => c.items
  | .key columns => fixed "PRIMARY KEY" ++ bracketed (columns.map fixed)

/-- The options after the parentheses. -/
def CreateStatement.trailingItems (o : TableOptions) : List Item :=
  flagged "WITHOUT ROWID" o.withoutRowId ++ (flagged "," (o.withoutRowId && o.strict) ++ flagged "STRICT" o.strict)

def CreateStatement.items (s : CreateStatement) : List Item :=
  fixed "CREATE" ++ (flagged "TEMPORARY" s.options.temporary ++ (fixed "TABLE"
    ++ (flagged "IF NOT EXISTS" s.options.ifNotExists ++ (fixed s.name
      ++ (bracketed (s.clauses.map TableClause.items) ++ trailingItems s.options)))))

/-! ## What a definition declares -/

/-- The column with its default as a literal; the key may be declared elsewhere. -/
def ColumnDefinition.declared (inlineKey : Bool) (c : ColumnDefinition) : DeclaredColumn :=
  ⟨c.name, c.type, c.isPrimaryKey && inlineKey, c.isNotNull, c.isUnique, c.default.map Scalar.literal⟩

def TableDefinition.declared (d : TableDefinition) : CreateStatement where
  name := d.name
  options := d.options
  clauses := d.columns.map (fun c => .column (c.declared !d.isComposite))
    ++ (if d.isComposite then [.key d.primaryKey] else [])

theorem isBare_keyword {t : ColumnType} (h : t ∈ ColumnType.builtIn) : isBare t.keyword := by
  revert t
  decide

theorem forall₂_flag {s : String} (h : isBare s) (b : Bool) :
    List.Forall₂ Cuts (if b then [s] else []) (if b then [fixed s] else []) := by
  cases b with
  | true => exact .cons (.of_bare h) .nil
  | false => exact .nil

theorem flatten_flag (s : String) (b : Bool) : (if b then [fixed s] else []).flatten = flagged s b := by
  cases b with
  | true => exact List.flatten_singleton
  | false => rfl

theorem forall₂_default (v : Option Scalar) :
    List.Forall₂ Cuts (match v with
        | some v => ["DEFAULT " ++ v.literal]
        | none => [])
      (if v.isSome then [ofDefault (v.map Scalar.literal)] else []) := by
  cases v with
  | none => exact .nil
  | some v => exact .cons (.after "DEFAULT " "DEFAULT" (by decide) (cuts_literal v)) .nil

theorem flatten_default (w : Option String) : (if w.isSome then [ofDefault w] else []).flatten = ofDefault w := by
  cases w with
  | none => rfl
  | some w => exact List.flatten_singleton

/-- A column's clause falls into the parts of the column it declares. -/
theorem cuts_clause {c : ColumnDefinition} (hn : IsWord c.name) (ht : c.type ∈ ColumnType.builtIn) (inlineKey : Bool) :
    Cuts (c.clause inlineKey) (c.declared inlineKey).items := by
  have hkey := forall₂_flag (s := "PRIMARY KEY") (by decide) (c.isPrimaryKey && inlineKey)
  have hnotNull := forall₂_flag (s := "NOT NULL") (by decide) c.isNotNull
  have hunique := forall₂_flag (s := "UNIQUE") (by decide) c.isUnique
  have hflags := List.rel_append (List.rel_append (List.rel_append hkey hnotNull) hunique) (forall₂_default c.default)
  have hcuts := Cuts.intercalate " " "" (by decide)
    (.cons (.of_isWord hn) (.cons (.of_bare (isBare_keyword ht)) hflags))
  rw [listed, show fixed "" = [] by rfl, nil_intercalate] at hcuts
  have hdefault := flatten_default (c.default.map Scalar.literal)
  rw [Option.isSome_map] at hdefault
  rw [ColumnDefinition.clause, ColumnDefinition.constraints]
  simp only [List.flatten_cons, List.flatten_append, flatten_flag, hdefault, List.append_assoc] at hcuts ⊢
  exact hcuts

theorem cuts_names {names : List String} (h : ∀ n ∈ names, IsWord n) :
    List.Forall₂ Cuts names (names.map fixed) :=
  List.forall₂_map_right_iff.2 (List.forall₂_same.2 fun n hn => .of_isWord (h n hn))

namespace TableDefinition

/-- The names are words, none of a column starts a key clause, and no type is one of its own. -/
structure Legible (d : TableDefinition) : Prop where
  name : IsWord d.name
  names : ∀ c ∈ d.columns, IsWord c.name
  noKey : ∀ c ∈ d.columns, c.name ≠ "PRIMARY"
  types : ∀ c ∈ d.columns, c.type ∈ ColumnType.builtIn

variable {d : TableDefinition}

theorem mem_primaryKey {n : String} : n ∈ d.primaryKey ↔ ∃ c ∈ d.columns, c.isPrimaryKey ∧ c.name = n := by
  simp [primaryKey, and_assoc]

theorem Legible.keys (h : d.Legible) : ∀ n ∈ d.primaryKey, IsWord n := by
  intro n hn
  obtain ⟨c, hc, -, rfl⟩ := mem_primaryKey.1 hn
  exact h.names c hc

theorem cuts_clauses (h : d.Legible) : List.Forall₂ Cuts d.clauses (d.declared.clauses.map TableClause.items) := by
  rw [clauses, declared, List.map_append, List.map_map]
  refine List.rel_append ?_ ?_
  · exact List.forall₂_map_left_iff.2 (List.forall₂_map_right_iff.2 (List.forall₂_same.2 fun c hc =>
      cuts_clause (h.names c hc) (h.types c hc) _))
  · split
    · have hlist := Cuts.intercalate ", " "," (by decide) (cuts_names h.keys)
      have hkey := Cuts.after "PRIMARY KEY (" "PRIMARY KEY (" (by decide) (Cuts.before ")" ")" (by decide) hlist)
      rw [← String.append_assoc] at hkey
      exact .cons hkey .nil
    · exact .nil

theorem cuts_trailing {s : String} {is : List Item} (h : Cuts s is) :
    Cuts (s ++ (if d.trailing.isEmpty then "" else " " ++ ", ".intercalate d.trailing))
      (is ++ CreateStatement.trailingItems d.options) := by
  obtain ⟨name, columns, ifNotExists, temporary, withoutRowId, strict⟩ := d
  cases withoutRowId <;> cases strict
  · simpa [trailing, CreateStatement.trailingItems, flagged] using h
  · exact Cuts.before " STRICT" "STRICT" (by decide) h
  · exact Cuts.before " WITHOUT ROWID" "WITHOUT ROWID" (by decide) h
  · exact Cuts.before " WITHOUT ROWID, STRICT" "WITHOUT ROWID, STRICT" (by decide) h

/-- The statement that creates a table falls into the parts of what the definition declares. -/
theorem cuts_createSql (h : d.Legible) : Cuts d.createSql d.declared.items := by
  have hlist := Cuts.intercalate ", " "," (by decide) (cuts_clauses h)
  have hbody := cuts_trailing (d := d) (Cuts.before ")" ")" (by decide)
    (Cuts.between " (" "(" (by decide) (Cuts.of_isWord h.name) hlist))
  have hexists := Cuts.flag "IF NOT EXISTS " "IF NOT EXISTS" (by decide) d.options.ifNotExists hbody
  have htable := Cuts.after "TABLE " "TABLE" (by decide) hexists
  have htemporary := Cuts.flag "TEMPORARY " "TEMPORARY" (by decide) d.options.temporary htable
  have hcreate := Cuts.after "CREATE " "CREATE" (by decide) htemporary
  rw [createSql, CreateStatement.items, bracketed]
  simp only [String.append_assoc, List.append_assoc] at hcreate ⊢
  exact hcreate

end TableDefinition

end TypedStorage
