/-
Column types that are passed on as text. A type is read again from its own keyword: one of the built-in types by its
name in capitals, any other by a name that has no blanks around it and is no keyword in any case
(`ColumnType.ofKeyword_keyword_self`). So a column gets the type that its declaration says, or the one that its field's
type has, however often the keyword is read in between (`ColumnType.keywords_stable`).
-/
import Mathlib.Data.List.Induction
import TypedStorage.Proofs.KeyMap
import TypedStorage.Proofs.Record.Declared

namespace TypedStorage

/-! ## Keywords -/

namespace ColumnType

open Text

/-- The types that have a keyword are read from the one that they are written as. -/
theorem ofKeyword_keyword_of_mem {t : ColumnType} (h : t ∈ keywords.map Prod.snd) : ofKeyword t.keyword = t := by
  have all : ∀ t ∈ keywords.map Prod.snd, ofKeyword t.keyword = t := by decide +kernel
  exact all t h

theorem ofKeyword_keyword_columnType (name : String) :
    ofKeyword (FieldTypeName.columnType name).keyword = FieldTypeName.columnType name := by
  have known : ∀ t ∈ FieldTypeName.columnTypes.map Prod.snd, t ∈ keywords.map Prod.snd := by decide
  rw [FieldTypeName.columnType]
  cases h : FieldTypeName.columnTypes.lookup (FieldTypeName.inner name) with
  | none => exact ofKeyword_keyword_of_mem (t := .any) (by decide)
  | some t => exact ofKeyword_keyword_of_mem (known t (List.mem_map_of_mem (mem_of_lookup h)))

/-- **A type that was read from a text is read from its own keyword again.** -/
theorem ofKeyword_keyword_self (s : String) : ofKeyword (ofKeyword s).keyword = ofKeyword s := by
  cases h : keywords.lookup (String.ofList ((trim s).toList.map Char.toUpper)) with
  | some t =>
    have hs : ofKeyword s = t := by rw [ofKeyword, h, Option.getD_some]
    rw [hs]
    exact ofKeyword_keyword_of_mem (List.mem_map_of_mem (mem_of_lookup h))
  | none =>
    -- no keyword in any case, before the blanks are taken off or after
    have hs : ofKeyword s = .custom (trim s) := by rw [ofKeyword, h, Option.getD_none]
    rw [hs, keyword, ofKeyword, trim_trim, h, Option.getD_none]

/-- No blank becomes a capital, so a text that is a keyword in capitals has no blanks in it. -/
theorem not_isBlank_of_capital {word : String} {t : ColumnType} (h : (word, t) ∈ keywords) {c : Char}
    (hc : c.toUpper ∈ word.toList) : isBlank c = false := by
  have blanks : ∀ n ∈ blankPoints, (Char.ofNat n).toUpper = Char.ofNat n ∧
      ∀ p ∈ keywords, Char.ofNat n ∉ p.1.toList := by decide +kernel
  rw [isBlank, ← Bool.not_eq_true, List.contains_iff_mem]
  intro hmem
  obtain ⟨hupper, hnone⟩ := blanks _ hmem
  rw [Char.ofNat_toNat] at hupper hnone
  exact hnone _ h (hupper ▸ hc)

/-- A keyword is known in any case. -/
theorem ofKeyword_of_capitals {word : String} {t : ColumnType} (h : (word, t) ∈ keywords) {s : String}
    (hs : s.toList.map Char.toUpper = word.toList) : ofKeyword s = t := by
  have hlookup : ∀ p ∈ keywords, keywords.lookup p.1 = some p.2 := by decide +kernel
  have htrim : trim s = s := by
    rw [trim, trimChars_of_not_blank fun c hc => not_isBlank_of_capital h (hs ▸ List.mem_map_of_mem hc),
      String.ofList_toList]
  rw [ofKeyword, htrim, hs, String.ofList_toList, hlookup _ h, Option.getD_some]

/-- What is read does not depend on the blanks around it. -/
theorem ofKeyword_surrounded {before after : List Char} (hbefore : ∀ c ∈ before, isBlank c)
    (hafter : ∀ c ∈ after, isBlank c) (s : String) :
    ofKeyword (String.ofList (before ++ (s.toList ++ after))) = ofKeyword s := by
  have htrim : trim (String.ofList (before ++ (s.toList ++ after))) = trim s := by
    rw [trim, String.toList_ofList, trimChars_surrounded hbefore hafter, trim]
  rw [ofKeyword, htrim, ofKeyword]

end ColumnType

/-! ## Columns of declared fields -/

namespace FieldDeclaration

/-- The last type that these arguments say. -/
def typeOf? (args : List Argument) : Option String :=
  (args.filter (·.key = "type")).getLast?.bind fun a => a.string.toOption

/-- The type that the attributes of a field say. -/
def saidType? (f : FieldDeclaration) : Option String :=
  typeOf? ((f.attributes.filter (·.name = "column")).flatMap fun a => a.arguments.getD [])

/-- The type that the field's column is to have: what its attributes say, or else what goes with the type of the field. -/
def declaredType (f : FieldDeclaration) : ColumnType :=
  match f.saidType? with
  | some keyword => .ofKeyword keyword
  | none => FieldTypeName.columnType f.typeName

/-- Only an argument that says a type changes the type. -/
theorem keyword_columnStep {s s' : ColumnSettings} {a : Argument} (h : columnStep s a = .ok s') :
    if a.key = "type" then a.string = .ok s'.keyword else s'.keyword = s.keyword := by
  unfold columnStep at h
  split at h
  case h_2 hkey =>
    obtain ⟨y, hy, rfl⟩ := exists_of_map_eq_ok h
    rw [if_pos hkey, hy]
  case h_7 => cases h
  all_goals
    next hkey =>
      obtain ⟨y, -, rfl⟩ := exists_of_map_eq_ok h
      rw [if_neg (by rw [hkey]; decide)]

theorem keyword_foldlM {args : List Argument} {s s' : ColumnSettings} (h : args.foldlM columnStep s = .ok s') :
    s'.keyword = (typeOf? args).getD s.keyword := by
  induction args using List.reverseRecOn generalizing s' with
  | nil =>
    cases h
    rfl
  | append_singleton args a ih =>
    rw [List.foldlM_append] at h
    cases hfold : args.foldlM columnStep s with
    | error e =>
      rw [hfold] at h
      cases h
    | ok s₁ =>
      rw [hfold] at h
      change (columnStep s₁ a >>= pure) = _ at h
      rw [bind_pure] at h
      have hstep := keyword_columnStep h
      rw [typeOf?, List.filter_append]
      split at hstep
      · next hkey => simp [hkey, hstep, Except.toOption]
      · next hkey =>
        rw [hstep, ih hfold]
        simp [typeOf?, hkey]

theorem ofKeyword_settings {f : FieldDeclaration} {s : ColumnSettings} (h : f.settings = .ok s) :
    ColumnType.ofKeyword s.keyword = f.declaredType := by
  rw [keyword_foldlM (foldlM_of_foldArguments h), declaredType]
  change ColumnType.ofKeyword (f.saidType?.getD _) = _
  cases f.saidType? with
  | none => exact ColumnType.ofKeyword_keyword_columnType f.typeName
  | some keyword => rfl

end FieldDeclaration

/-- The column of a field has the type that the declaration gives it. -/
theorem Field.type_of_declaration {f : FieldDeclaration} {g : Field} (h : ofDeclaration f = .ok g)
    (constants : Expression → Scalar) : (g.columnDefinition constants).type = f.declaredType := by
  obtain ⟨s, hs, -, hkeyword, -⟩ := of_declaration h
  simp only [columnDefinition, hkeyword, FieldDeclaration.ofKeyword_settings hs]

/-- Nothing becomes of a type on its way through texts. -/
structure ColumnType.KeywordsStable : Prop where
  /-- A keyword is known in any case, -/
  capitals : ∀ word t s, (word, t) ∈ keywords → s.toList.map Char.toUpper = word.toList → ofKeyword s = t
  /-- and any text is read with any blanks around it. -/
  surrounded : ∀ before after s, (∀ c ∈ before, Text.isBlank c) → (∀ c ∈ after, Text.isBlank c) →
    ofKeyword (String.ofList (before ++ (s.toList ++ after))) = ofKeyword s
  /-- What a text is read as is what its own keyword is read as, -/
  read : ∀ s, ofKeyword (ofKeyword s).keyword = ofKeyword s
  /-- and so is the type that goes with a type of fields. -/
  named : ∀ name, ofKeyword (FieldTypeName.columnType name).keyword = FieldTypeName.columnType name
  /-- So the columns of a record type have the types that are declared, field by field, -/
  declared : ∀ d t constants, RecordType.ofDeclaration d = .ok t →
    List.Forall₂ (fun f g => (Field.columnDefinition constants g).type = f.declaredType) d.fields t.fields
  /-- and these are read from their own keywords once more. -/
  again : ∀ f : FieldDeclaration, ofKeyword f.declaredType.keyword = f.declaredType

/-- **Types are stable under being passed on as text.** -/
theorem ColumnType.keywords_stable : KeywordsStable where
  capitals _ _ _ h hs := ofKeyword_of_capitals h hs
  surrounded _ _ s hbefore hafter := ofKeyword_surrounded hbefore hafter s
  read := ofKeyword_keyword_self
  named := ofKeyword_keyword_columnType
  declared d t constants h := by
    refine List.Forall₂.imp (fun f g hg => ?_) (RecordType.forall₂_of_declaration h)
    exact Field.type_of_declaration hg constants
  again f := by
    rw [FieldDeclaration.declaredType]
    split
    · exact ofKeyword_keyword_self _
    · exact ofKeyword_keyword_columnType _

end TypedStorage
