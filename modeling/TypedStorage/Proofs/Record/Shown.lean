/-
Records read from some of the columns of a row. A field whose column is not shown is read as if it were null, so only
an optional one can be read at all, and it is read as absent; a field whose column is shown is read as what the row
holds (`Values.exists_shows`). What is read is the record in the row, then, where every optional column is shown
(`Values.eq_of_shows`).
-/
import TypedStorage.Proofs.Record.Row

namespace TypedStorage

open Engine (Stored)

/-! ## Values -/

/-- Reading the scalar back from its text would not change a double in it. -/
def Scalar.KeepsDoubles : Scalar → Prop
  | .json d => d.tree.DoublesReadBack
  | _ => True

theorem Engine.Stored.eq_null_of_toScalar {v : Stored} (h : v.toScalar = .null) : v = .null := by
  cases v with
  | null => rfl
  | _ => cases h

namespace BaseType

variable {b : BaseType}

theorem read?_null : FromScalar.read? (α := b.Value) .null = none := by
  cases b <;> rfl

/-- What cannot be read back as it was is not read back as anything else. -/
theorem read?_kept_eq_none {v : b.Value} (hd : (toScalar v).KeepsDoubles) (h : ¬(toScalar v).ReadsBack) :
    FromScalar.read? (α := b.Value) (toScalar v).kept = none := by
  cases b with
  | double =>
    cases v with
    | nan => rfl
    | infinite _ | finite _ => exact absurd Double.noConfusion h
  | timestamp => exact Timestamp.ofText?_text_eq_none h
  | json => exact Json.ofText?_document_eq_none fun hdepth => h ⟨hdepth, hd⟩
  | _ => exact absurd trivial h

theorem eq_of_read?_kept {v y : b.Value} (hd : (toScalar v).KeepsDoubles)
    (h : FromScalar.read? (toScalar v).kept = some y) : y = v := by
  by_cases hr : (toScalar v).ReadsBack
  · rw [read?_kept_of_read? hr (read?_toScalar v)] at h
    exact (Option.some.inj h).symm
  · rw [read?_kept_eq_none hd hr] at h
    cases h

end BaseType

namespace FieldType

variable {t : FieldType}

theorem toScalar_of_fromScalar_null {y : t.Value} (h : t.fromScalar .null = .ok y) : t.toScalar y = .null := by
  obtain ⟨base, isOptional⟩ := t
  cases isOptional with
  | false =>
    have hread := fromScalar_eq_ok.1 h
    rw [BaseType.read?_null] at hread
    cases hread
  | true =>
    have hread : FromScalar.read? (α := Option base.Value) .null = some y := fromScalar_eq_ok.1 h
    obtain rfl : none = y := Option.some.inj hread
    rfl

/-- What is read of a stored value would be stored in the same way. NaN is stored as no value, and read as none. -/
theorem ofScalar_of_fromScalar_kept {v y : t.Value} (hd : (t.toScalar v).KeepsDoubles)
    (h : t.fromScalar (t.toScalar v).kept = .ok y) : Stored.ofScalar (t.toScalar y) = .ofScalar (t.toScalar v) := by
  by_cases hnull : (t.toScalar v).kept = .null
  · rw [hnull] at h
    rw [toScalar_of_fromScalar_null h]
    exact (Stored.eq_null_of_toScalar hnull).symm
  · obtain ⟨base, isOptional⟩ := t
    cases isOptional with
    | false =>
      have hy : y = v := BaseType.eq_of_read?_kept hd (fromScalar_eq_ok.1 h)
      rw [hy]
    | true =>
      have hread := fromScalar_eq_ok.1 h
      rw [read?_option hnull] at hread
      obtain ⟨w, hw, rfl⟩ := Option.map_eq_some_iff.1 hread
      cases v with
      | none => exact absurd rfl hnull
      | some v =>
        have hy : w = v := BaseType.eq_of_read?_kept hd hw
        rw [hy]

end FieldType

/-! ## Rows that hold records -/

/-- What is stored of some value of the field; nothing is asked of a field that is skipped. -/
def Field.Fits (f : Field) (v : Stored) : Prop :=
  ∀ type, f.role = .stored type → ∃ x : type.Value, v = .ofScalar (type.toScalar x)

variable {σ : String → Type}

/-- The row has what is stored of the values. -/
def Values.IsIn (fields : List Field) (x : Values σ fields) (row : Sql.Row) : Prop :=
  ∀ p ∈ scalars fields x, row p.1.column = .ofScalar p.2

/-- What reading a field, from its column or without it, says of the value. -/
def FieldRole.Shows {τ : Type} [Inhabited τ] (isShown : Prop) : (role : FieldRole) → role.Value τ → role.Value τ → Prop
  | .stored type, x, y => (isShown → (type.toScalar x).KeepsDoubles → y = x) ∧ (¬isShown → type.toScalar y = .null)
  | .skipped, _, y => y = default

namespace Values

variable [∀ name, Inhabited (σ name)]

/-- The second record agrees with the first in the columns that are shown, and has nothing in the others. -/
def Shows (columns : List String) : (fields : List Field) → Values σ fields → Values σ fields → Prop
  | [], _, _ => True
  | f :: fields, (x, xs), (y, ys) => f.role.Shows (f.column ∈ columns) x y ∧ Shows columns fields xs ys

end Values

theorem Sql.cell_shown (columns : List String) (row : Row) (c : String) :
    (shown columns row).cell c = if c ∈ columns then (row c).toScalar else .null := by
  rw [KeyMap.cell, shown]
  split
  · next hc => rw [KeyMap.get?_ofPairs_map _ hc]; rfl
  · next hc =>
    have hnone : (KeyMap.ofPairs (columns.map fun c => (c, (row c).toScalar))).get? c = none := by
      by_contra hsome
      exact hc (KeyMap.mem_keys_ofPairs_map.1 (KeyMap.mem_keys_iff.2 (Option.isSome_iff_ne_none.2 hsome)))
    rw [hnone]
    rfl

/-- A value that is read from its column is in the row, or the row has one that it agrees with. -/
theorem FieldRole.exists_shows {τ : Type} [Inhabited τ] {role : FieldRole} {column : String}
    {columns : List String} {row : Sql.Row}
    (hfits : ∀ type, role = .stored type → ∃ x : type.Value, row column = .ofScalar (type.toScalar x))
    {y : role.Value τ} (h : role.read column (Sql.shown columns row) = .ok y) :
    ∃ x : role.Value τ, (∀ s, role.scalar? x = some s → row column = .ofScalar s)
      ∧ role.Shows (column ∈ columns) x y := by
  cases role with
  | skipped =>
    have hy : y = default := (Except.ok.inj h).symm
    refine ⟨y, ?_, hy⟩
    intro s hs
    cases hs
  | stored type =>
    obtain ⟨v, hv⟩ := hfits type rfl
    have hread := Values.read_stored_eq_ok.1 h
    rw [Sql.cell_shown] at hread
    have hstored : ∀ x : type.Value, row column = .ofScalar (type.toScalar x) →
        ∀ s, FieldRole.scalar? (σ := τ) (.stored type) x = some s → row column = .ofScalar s := by
      intro x hx s hs
      cases hs
      exact hx
    by_cases hc : column ∈ columns
    · rw [if_pos hc, hv] at hread
      by_cases hd : (type.toScalar v).KeepsDoubles
      · -- the row may hold a NaN as null, so the record in it is told by what was read
        have hy := FieldType.ofScalar_of_fromScalar_kept hd hread
        exact ⟨y, hstored y (hv.trans hy.symm), fun _ _ => rfl, fun hn => absurd hc hn⟩
      · exact ⟨v, hstored v hv, fun _ hk => absurd hk hd, fun hn => absurd hc hn⟩
    · rw [if_neg hc] at hread
      exact ⟨v, hstored v hv, fun hs => absurd hs hc, fun _ => FieldType.toScalar_of_fromScalar_null hread⟩

namespace Values

variable [∀ name, Inhabited (σ name)] {columns : List String}

/-- **What is read from the columns that are shown is a record in the row**, as far as they show it. -/
theorem exists_shows {fields : List Field} {row : Sql.Row} (hfits : ∀ f ∈ fields, f.Fits (row f.column))
    {y : Values σ fields} (h : read fields (Sql.shown columns row) = .ok y) :
    ∃ x, IsIn fields x row ∧ Shows columns fields x y := by
  induction fields with
  | nil =>
    refine ⟨(), ?_, trivial⟩
    intro p hp
    cases hp
  | cons f fields ih =>
    obtain ⟨y, ys⟩ := y
    obtain ⟨hf, hrest⟩ := read_cons_eq_ok.1 h
    obtain ⟨xs, hin, hshows⟩ := ih (fun g hg => hfits g (List.mem_cons_of_mem _ hg)) hrest
    obtain ⟨x, hx, hfield⟩ := FieldRole.exists_shows (hfits f List.mem_cons_self) hf
    refine ⟨(x, xs), ?_, hfield, hshows⟩
    intro p hp
    rw [scalars, List.mem_append] at hp
    rcases hp with hp | hp
    · obtain ⟨s, hs, rfl⟩ := Option.map_eq_some_iff.1 (Option.mem_toList.1 hp)
      exact hx s hs
    · exact hin p hp

/-- Where every optional column is shown, nothing is missing. -/
theorem eq_of_shows {fields : List Field} (hstored : ∀ f ∈ fields, f.isStored)
    (hopt : ∀ f ∈ fields, f.isOptional → f.column ∈ columns) {x y : Values σ fields}
    (hd : ∀ p ∈ scalars fields x, p.2.KeepsDoubles) (h : Shows columns fields x y) : y = x := by
  induction fields with
  | nil => rfl
  | cons f fields ih =>
    obtain ⟨x, xs⟩ := x
    obtain ⟨y, ys⟩ := y
    obtain ⟨hfield, hrest⟩ := h
    have ih := ih (fun g hg => hstored g (List.mem_cons_of_mem _ hg)) (fun g hg => hopt g (List.mem_cons_of_mem _ hg))
      (fun p hp => hd p (List.mem_append_right _ hp)) hrest
    have hf := hstored f List.mem_cons_self
    have ho := hopt f List.mem_cons_self
    obtain ⟨name, column, keyword, isKey, isNotNull, isUnique, default, role, hv, hk⟩ := f
    cases role with
    | skipped => cases hf
    | stored type =>
      have hkeeps := hd _ (List.mem_append_left _ List.mem_cons_self)
      have hy : y = x := by
        by_cases hc : column ∈ columns
        · exact hfield.1 hc hkeeps
        · cases hi : type.isOptional with
          | true => exact absurd (ho hi) hc
          | false => exact absurd (hfield.2 hc) (FieldType.toScalar_ne_null hi y)
      rw [hy, ih]

end Values

end TypedStorage
