/-
Which number is read from a scalar that is one. Integers, real numbers and booleans are numbers (`Scalar.number?`), and so
are the values of four types (`BaseType.number?`). What one of these types reads from a scalar is the number that the
scalar is, and an integer that is no number of the type is refused; but an integer is read as a double whatever its size,
so one that no double is equal to is rounded (`Scalar.fromScalar_number`).
-/
import TypedStorage.Proofs.Double.Nearest
import TypedStorage.Proofs.Scalar.Kept

namespace TypedStorage

/-- The numbers that scalars can be; those that are finite are counted in ticks. -/
inductive Number where
  | nan
  | infinite (negative : Bool)
  | finite (ticks : Int)
  deriving DecidableEq

namespace Number

def ofInt (i : Int) : Number := .finite (i * Double.ticksPerUnit)

/-- The two zeros are one number. -/
def ofDouble : Double → Number
  | .nan => .nan
  | .infinite negative => .infinite negative
  | .finite x => .finite x.value

def ofBool (b : Bool) : Number := ofInt (if b then 1 else 0)

theorem ofInt_injective {i j : Int} (h : ofInt i = ofInt j) : i = j := by
  have hpos := Double.ticksPerUnit_pos
  exact Int.eq_of_mul_eq_mul_right (by omega) (finite.inj h)

end Number

def Scalar.number? : Scalar → Option Number
  | .integer i => some (.ofInt i.toInt)
  | .real x => some (.ofDouble x)
  | .boolean b => some (.ofBool b)
  | _ => none

namespace BaseType

/-- The number that a value is, if its type is a type of numbers. -/
def number? : (t : BaseType) → t.Value → Option Number
  | .int32, i => some (.ofInt i.toInt)
  | .int64, i => some (.ofInt i.toInt)
  | .double, x => some (.ofDouble x)
  | .boolean, b => some (.ofBool b)
  | _, _ => none

def IsNumeric (t : BaseType) : Prop := t = .int32 ∨ t = .int64 ∨ t = .double ∨ t = .boolean

/-- The scalar is an integer with too many bits for a double, and is read as one. -/
def Rounds (t : BaseType) (s : Scalar) : Prop := t = .double ∧ ∃ i : Int64, s = .integer i ∧ ¬Double.IsShort i.toInt

variable {t : BaseType} {s : Scalar} {n : Number}

/-- No value that is read is another number, unless it is rounded. -/
theorem number?_of_read? (hs : s.number? = some n) {x : t.Value} (hx : FromScalar.read? s = some x)
    (ht : t.IsNumeric) (hr : ¬t.Rounds s) : t.number? x = some n := by
  cases s with
  | integer i =>
    cases hs
    rcases ht with rfl | rfl | rfl | rfl
    · exact congrArg (fun i => some (Number.ofInt i)) (toInt_of_narrow?.1 hx)
    · cases hx
      rfl
    · have hshort : Double.IsShort i.toInt := Decidable.byContradiction fun h => hr ⟨rfl, i, rfl, h⟩
      obtain ⟨y, hy, -⟩ := Double.ofInt_nearest i
      obtain rfl : Double.ofInt i.toInt = x := Option.some.inj hx
      show some (Number.ofDouble (Double.ofInt i.toInt)) = _
      rw [hy, Number.ofDouble, (Double.value_ofInt_eq_iff i hy).2 hshort]
      rfl
    · have hbool : (if i = 0 then some false else if i = 1 then some true else none) = some x := hx
      split at hbool
      · next h0 =>
        cases hbool
        rw [h0]
        rfl
      · split at hbool
        · next h1 =>
          cases hbool
          rw [h1]
          rfl
        · cases hbool
  | real y =>
    cases hs
    rcases ht with rfl | rfl | rfl | rfl <;> cases hx
    rfl
  | boolean b =>
    cases hs
    rcases ht with rfl | rfl | rfl | rfl <;> cases hx
    · cases b <;> rfl
    · rfl
  | _ => cases hs

/-- An integer is read as the value that is the same number, if the type has one. -/
theorem read?_integer_iff (ht : t.IsNumeric) (hne : t ≠ .double) {i : Int64} {x : t.Value} :
    FromScalar.read? (.integer i) = some x ↔ t.number? x = some (.ofInt i.toInt) := by
  constructor
  · intro hx
    exact number?_of_read? rfl hx ht fun hr => hne hr.1
  · intro hx
    rcases ht with rfl | rfl | rfl | rfl
    · exact toInt_of_narrow?.2 (Number.ofInt_injective (Option.some.inj hx))
    · exact congrArg some (Int64.toInt_inj.1 (Number.ofInt_injective (Option.some.inj hx))).symm
    · exact absurd rfl hne
    · have hi : i = if x then 1 else 0 := by
        refine Int64.toInt_inj.1 ((Number.ofInt_injective (Option.some.inj hx)).symm.trans ?_)
        cases x <;> rfl
      subst hi
      cases x <;> rfl

/-- What comes of reading a scalar that is a number as a value of a type. -/
structure ReadsNumber (t : BaseType) (s : Scalar) (n : Number) : Prop where
  /-- What is read is the number, but for an integer with too many bits that is read as a double, -/
  exact_iff : ∀ x : t.Value, fromScalar s = .ok x → (t.number? x = some n ↔ ¬t.Rounds s)
  /-- which no double is equal to. -/
  ne_of_rounds : t.Rounds s → ∀ x : t.Value, t.number? x ≠ some n
  /-- So of two numbers that are read as one value one is such an integer. -/
  rounds_of_ne : ∀ s' n' (x : t.Value), s'.number? = some n' → fromScalar s = .ok x → fromScalar s' = .ok x → n ≠ n' →
    t.Rounds s ∨ t.Rounds s'
  /-- An integer is read as the value that is the same number, and refused if there is none. -/
  integer_iff : ∀ i, s = .integer i → t ≠ .double → ∀ x : t.Value, fromScalar s = .ok x ↔ t.number? x = some n
  /-- As a double no integer is refused: it is read as a finite number that is as near as any. -/
  nearest : ∀ i, s = .integer i → t = .double → ∃ (x : t.Value) (y : Double.Finite), fromScalar s = .ok x ∧
    t.number? x = some (.finite y.value) ∧ ∀ z : Double.Finite,
      (i.toInt * Double.ticksPerUnit - y.value).natAbs ≤ (i.toInt * Double.ticksPerUnit - z.value).natAbs

theorem number?_ne_of_rounds (hs : s.number? = some n) (hr : t.Rounds s) (x : t.Value) : t.number? x ≠ some n := by
  obtain ⟨rfl, i, rfl, hlong⟩ := hr
  cases hs
  intro hx
  cases x with
  | nan | infinite _ => cases hx
  | finite y => exact hlong ((Double.exists_value_eq_iff i).1 ⟨y, Number.finite.inj (Option.some.inj hx)⟩)

end BaseType

open BaseType in
/--
**Reading a number gives that number or nothing, but for integers that are read as doubles.** Of these the ones with too
many bits are rounded to the nearest double.
-/
theorem Scalar.fromScalar_number {t : BaseType} (ht : t.IsNumeric) {s : Scalar} {n : Number} (hs : s.number? = some n) :
    t.ReadsNumber s n where
  exact_iff x hx := by
    constructor
    · intro hn hr
      exact number?_ne_of_rounds hs hr x hn
    · exact number?_of_read? hs (fromScalar_eq_ok.1 hx) ht
  ne_of_rounds := number?_ne_of_rounds hs
  rounds_of_ne s' n' x hs' hx hx' hne := by
    by_contra hr
    rw [not_or] at hr
    have hn := number?_of_read? hs (fromScalar_eq_ok.1 hx) ht hr.1
    have hn' := number?_of_read? hs' (fromScalar_eq_ok.1 hx') ht hr.2
    exact hne (Option.some.inj (hn.symm.trans hn'))
  integer_iff i hi hne x := by
    subst hi
    cases hs
    rw [fromScalar_eq_ok]
    exact read?_integer_iff ht hne
  nearest i hi hd := by
    subst hi hd
    obtain ⟨y, hy, hnearest⟩ := Double.ofInt_nearest i
    exact ⟨.finite y, y, fromScalar_eq_ok.2 (congrArg some hy), rfl, hnearest⟩

/-- The greatest integer, which is read as 2^63, and the greatest that is read as a 32-bit integer. -/
theorem Scalar.fromScalar_number_greatest :
    BaseType.IsNumeric .double ∧ (Scalar.integer 9223372036854775807).number? = some (.ofInt 9223372036854775807) ∧
      BaseType.ReadsNumber .double (.integer 9223372036854775807) (.ofInt 9223372036854775807) ∧
      BaseType.IsNumeric .int32 ∧ (Scalar.integer 2147483647).number? = some (.ofInt 2147483647) ∧
      BaseType.ReadsNumber .int32 (.integer 2147483647) (.ofInt 2147483647) := by
  have hd : BaseType.IsNumeric .double := .inr (.inr (.inl rfl))
  have hi : BaseType.IsNumeric .int32 := .inl rfl
  exact ⟨hd, rfl, fromScalar_number hd rfl, hi, rfl, fromScalar_number hi rfl⟩

/-- 2^53 + 1 is read as the double that 2^53 is read as, and is another number. -/
theorem Scalar.fromScalar_beyondDoubles :
    ¬(∀ (t : BaseType) (s : Scalar) (n : Number) (x : t.Value), t.IsNumeric → s.number? = some n → fromScalar s = .ok x →
      t.number? x = some n) ∧
    (fromScalar (.integer 9007199254740993) : Except ConversionError Double) = fromScalar (.integer 9007199254740992) := by
  have hsame : Double.ofInt 9007199254740993 = Double.ofInt 9007199254740992 := by decide +kernel
  refine ⟨fun h => ?_, congrArg Except.ok hsame⟩
  have hodd := h .double (.integer 9007199254740993) _ _ (.inr (.inr (.inl rfl))) rfl rfl
  have heven := h .double (.integer 9007199254740992) _ _ (.inr (.inr (.inl rfl))) rfl rfl
  have hnumber := Option.some.inj (hodd.symm.trans ((congrArg (fun x => some (Number.ofDouble x)) hsame).trans heven))
  exact absurd (Number.ofInt_injective hnumber) (by decide)

end TypedStorage
