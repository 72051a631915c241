/-
What a declaration says of its fields. A record type has one field for each that is declared, in order
(`forall₂_of_declaration`), and where no attribute says `not_null` a column that must not be null is one whose
field cannot be absent (`isOptional_of_isNotNull`). Two readings of a type's name meet there: one asks whether it
begins like an optional one, the other which type is inside.
-/
import Mathlib.Data.List.Forall2
import TypedStorage.Proofs.Text.Blank
import TypedStorage.Record.Basic

namespace TypedStorage

/-- What goes through for a list goes through for each. -/
theorem forall₂_of_mapM {ε α β : Type} {f : α → Except ε β} {xs : List α} {ys : List β} (h : xs.mapM f = .ok ys) :
    List.Forall₂ (fun x y => f x = .ok y) xs ys := by
  induction xs generalizing ys with
  | nil =>
    cases h
    exact .nil
  | cons x xs ih =>
    rw [List.mapM_cons] at h
    cases hx : f x with
    | error e =>
      rw [hx] at h
      cases h
    | ok y =>
      cases hr : xs.mapM f with
      | error e =>
        rw [hx, hr] at h
        cases h
      | ok rest =>
        rw [hx, hr] at h
        cases h
        exact .cons hx (ih hr)

theorem exists_of_map_eq_ok {ε α β : Type} {x : Except ε α} {f : α → β} {y : β} (h : x.map f = .ok y) :
    ∃ a, x = .ok a ∧ f a = y := by
  cases x with
  | error e => cases h
  | ok a => exact ⟨a, rfl, Except.ok.inj h⟩

/-! ## Arguments -/

/-- The attribute has an argument of this key. -/
def Attribute.Says (a : Attribute) (key : String) : Prop := ∃ args, a.arguments = some args ∧ ∃ b ∈ args, b.key = key

section

variable {σ : Type} {name : String} {step : σ → Argument → Except DeclarationError σ} {P : σ → Prop}

theorem foldlM_keeps {args : List Argument} {s s' : σ} (h : args.foldlM step s = .ok s') (hs : P s)
    (hstep : ∀ b ∈ args, ∀ s s', P s → step s b = .ok s' → P s') : P s' := by
  induction args generalizing s with
  | nil =>
    cases h
    exact hs
  | cons b args ih =>
    rw [List.foldlM_cons] at h
    cases hb : step s b with
    | error e =>
      rw [hb] at h
      cases h
    | ok s₁ =>
      rw [hb] at h
      exact ih h (hstep b List.mem_cons_self s s₁ hs hb) fun b hb => hstep b (List.mem_cons_of_mem _ hb)

/-- Attributes are their arguments, one after the other. -/
theorem foldlM_of_foldArguments {attributes : List Attribute} {s s' : σ}
    (h : foldArguments name step s attributes = .ok s') :
    ((attributes.filter (·.name = name)).flatMap fun a => a.arguments.getD []).foldlM step s = .ok s' := by
  induction attributes generalizing s with
  | nil => exact h
  | cons a rest ih =>
    rw [foldArguments] at h
    split at h
    · next hname =>
      rw [List.filter_cons_of_neg (by simpa using hname)]
      exact ih h
    · next hname =>
      split at h
      · cases h
      · next args hargs =>
        rw [List.filter_cons_of_pos (by simpa using hname), List.flatMap_cons, List.foldlM_append, hargs,
          Option.getD_some]
        cases hfold : args.foldlM step s with
        | error e =>
          rw [hfold] at h
          cases h
        | ok s₁ =>
          rw [hfold] at h
          exact ih h

/-- What every argument keeps is kept by all attributes. -/
theorem foldArguments_keeps {attributes : List Attribute} {s s' : σ} (h : foldArguments name step s attributes = .ok s')
    (hs : P s) (hstep : ∀ a ∈ attributes, a.name = name → ∀ args, a.arguments = some args → ∀ b ∈ args, ∀ s s',
      P s → step s b = .ok s' → P s') : P s' := by
  refine foldlM_keeps (foldlM_of_foldArguments h) hs fun b hb => ?_
  obtain ⟨a, ha, hb⟩ := List.mem_flatMap.1 hb
  obtain ⟨ha, hname⟩ := List.mem_filter.1 ha
  cases hargs : a.arguments with
  | none => simp [hargs] at hb
  | some args =>
    rw [hargs, Option.getD_some] at hb
    exact hstep a ha (of_decide_eq_true hname) args hargs b hb

end

/-! ## Optional types -/

/-- What holds a type inside begins like an optional type. -/
theorem FieldTypeName.isOptional_of_strip {cs : List Char} (h : stripOption cs ≠ cs) :
    isOptional (String.ofList cs) = true := by
  unfold stripOption at h
  split at h
  · next hopt =>
    obtain ⟨hhead, hlast⟩ := hopt
    obtain ⟨rest, rfl⟩ := List.isPrefixOf_iff_prefix.1 hhead
    rw [List.drop_left' (by decide)] at hlast
    obtain ⟨inside, rfl⟩ := List.getLast?_eq_some_iff.1 hlast
    have htrim : Text.trimChars (optionHead ++ (inside ++ ['>'])) = optionHead ++ (inside ++ ['>']) :=
      Text.trimChars_of_ends ("ption<".toList ++ inside) (by decide) (by decide)
    have hlist : (String.ofList (optionHead ++ (inside ++ ['>']))).toList = optionHead ++ (inside ++ ['>']) :=
      String.toList_ofList
    rw [isOptional, hlist, htrim, List.isPrefixOf_iff_prefix]
    exact (show "Option".toList <+: optionHead by decide).trans (List.prefix_append _ _)
  · exact absurd rfl h

/-! ## Fields -/

namespace FieldDeclaration

/-- A `column` attribute of the field says that its column is never null. -/
def SaysNotNull (f : FieldDeclaration) : Prop := ∃ a ∈ f.attributes, a.name = "column" ∧ a.Says "not_null"

theorem isNotNull_columnStep {s s' : ColumnSettings} {a : Argument} (ha : a.key ≠ "not_null")
    (h : columnStep s a = .ok s') : s'.isNotNull = s.isNotNull := by
  unfold columnStep at h
  split at h
  case h_5 hkey => exact absurd hkey ha
  case h_7 => cases h
  all_goals
    obtain ⟨y, -, rfl⟩ := exists_of_map_eq_ok h
    rfl

/-- Where no attribute says so, it is as the field's type has it. -/
theorem isNotNull_settings {f : FieldDeclaration} {s : ColumnSettings} (hs : f.settings = .ok s) (h : ¬ f.SaysNotNull) :
    s.isNotNull = f.initial.isNotNull := by
  refine foldArguments_keeps (P := fun s => s.isNotNull = f.initial.isNotNull) hs rfl ?_
  intro a ha hname args hargs b hb s s' hp hstep
  have hkey : b.key ≠ "not_null" := fun hkey => h ⟨a, ha, hname, args, hargs, b, hb, hkey⟩
  rw [isNotNull_columnStep hkey hstep, hp]

end FieldDeclaration

namespace Field

/-- What a field has from its declaration. -/
theorem of_declaration {d : FieldDeclaration} {g : Field} (h : ofDeclaration d = .ok g) :
    ∃ s, d.settings = .ok s ∧ g.column = s.column ∧ g.keyword = s.keyword ∧ g.isKey = d.isKey ∧
      g.isNotNull = s.isNotNull ∧ g.isStored = !s.isSkipped ∧ ∀ type, g.role = .stored type → FieldType.ofName? d.typeName = some type := by
  rw [ofDeclaration] at h
  split at h
  · cases h
  · next s hs =>
    refine ⟨s, hs, ?_⟩
    dsimp only at h
    split at h
    · next hskip =>
      split at h <;> cases h
      refine ⟨rfl, rfl, rfl, rfl, ?_, ?_⟩
      · rw [hskip]
        rfl
      · intro type hrole
        cases hrole
    · next hskip =>
      split at h
      · cases h
      · split at h
        · cases h
        · next type htype =>
          cases h
          refine ⟨rfl, rfl, rfl, rfl, ?_, ?_⟩
          · simp [isStored, FieldRole.isStored, hskip]
          · rintro _ ⟨⟩
            exact htype

/-- Where no attribute says `not_null`, only what cannot be absent is never null. -/
theorem isOptional_of_isNotNull {d : FieldDeclaration} {g : Field} (h : ofDeclaration d = .ok g) (hd : ¬ d.SaysNotNull)
    (hg : g.isNotNull = true) {type : FieldType} (hrole : g.role = .stored type) : type.isOptional = false := by
  obtain ⟨s, hs, -, -, -, hnull, -, htype⟩ := of_declaration h
  rw [hnull, FieldDeclaration.isNotNull_settings hs hd, FieldDeclaration.initial, Bool.and_eq_true, Bool.not_eq_true',
    Bool.not_eq_true'] at hg
  have hname := htype type hrole
  rw [FieldType.ofName?, Option.map_eq_some_iff] at hname
  obtain ⟨base, -, rfl⟩ := hname
  refine decide_eq_false fun hstrip => ?_
  rw [FieldTypeName.isOptional_of_strip hstrip] at hg
  exact absurd hg.2 (by decide)

end Field

namespace RecordType

variable {d : Declaration} {t : RecordType}

/-- What has gone through when a declaration is accepted. -/
theorem parts_of_declaration (h : ofDeclaration d = .ok t) :
    (∃ table, d.table = .ok table) ∧ d.shape = .namedFields ∧ d.fields.mapM Field.ofDeclaration = .ok t.fields := by
  rw [ofDeclaration] at h
  cases ht : d.table with
  | error e =>
    rw [ht] at h
    cases h
  | ok table =>
    rw [ht] at h
    change (if d.shape ≠ .namedFields then _ else _) = _ at h
    split at h
    · cases h
    · next hshape =>
      cases hf : d.fields.mapM Field.ofDeclaration with
      | error e =>
        rw [hf] at h
        cases h
      | ok fields =>
        rw [hf] at h
        change (if _ : _ then _ else _) = _ at h
        split at h <;> cases h
        exact ⟨⟨table, rfl⟩, not_not.1 hshape, rfl⟩

/-- A record type has a field for each that is declared, in order. -/
theorem forall₂_of_declaration (h : ofDeclaration d = .ok t) :
    List.Forall₂ (fun f g => Field.ofDeclaration f = .ok g) d.fields t.fields :=
  forall₂_of_mapM (parts_of_declaration h).2.2

end RecordType

theorem mem_of_forall₂ {α β : Type} {f : α → Except DeclarationError β} {xs : List α} {ys : List β} {x : α} {y : β}
    (h : List.Forall₂ (fun x y => f x = .ok y) xs ys) (hx : x ∈ xs) (hy : f x = .ok y) : y ∈ ys := by
  induction h with
  | nil => cases hx
  | cons hfirst hrest ih =>
    rcases List.mem_cons.1 hx with rfl | hx
    · rw [hfirst] at hy
      cases hy
      exact List.mem_cons_self
    · exact List.mem_cons_of_mem _ (ih hx)

theorem RecordType.mem_of_declaration {d : Declaration} {t : RecordType} (h : ofDeclaration d = .ok t)
    {f : FieldDeclaration} (hf : f ∈ d.fields) {g : Field} (hg : Field.ofDeclaration f = .ok g) : g ∈ t.fields :=
  mem_of_forall₂ (forall₂_of_declaration h) hf hg

end TypedStorage
