/-
Real numbers are the scalars whose literals may say something else. The literal of a double is its text, which has a point
only where the double is no whole number: only then does it stand for a real number (`Scalar.isRealLiteral_iff`). The
literal of a whole number stands for an integer, as long as it is in range; an infinity or a NaN has no literal at all, and
its text is a word that stands for itself or, with a minus in front, for nothing. What a column then holds depends on its
affinity too.

To which double a numeral is converted is the engine's matter, and it need not be the nearest one. So defaults are those of
any engine that takes numerals for integers and real numbers by the way they are written (`Sql.Columns.ReadsDefaults`); the
one that the library runs on is such an engine (`Engine.readsDefaults_columns`).
-/
import TypedStorage.Proofs.Double.Nearest
import TypedStorage.Proofs.Scalar.Columns
import TypedStorage.Proofs.Scalar.Literal

namespace TypedStorage

open Text Engine

namespace Double

/-- A number that has a fraction or is at least 2^63; but for −2^63 no integer of 64 bits is one. -/
def IsApart (x : Double) : Prop := x.HasFraction ∨ x.IsBeyondIntegers

instance : DecidablePred HasFraction
  | .finite x => inferInstanceAs (Decidable (x.magnitude % ticksPerUnit ≠ 0))
  | .nan | .infinite _ => isFalse id

instance : DecidablePred IsBeyondIntegers
  | .finite x => inferInstanceAs (Decidable (integerBound * ticksPerUnit ≤ x.magnitude))
  | .nan | .infinite _ => isFalse id

instance : DecidablePred IsApart := fun x => inferInstanceAs (Decidable (x.HasFraction ∨ x.IsBeyondIntegers))

variable {x : Finite}

/-- An integer of 64 bits is not apart from the integers. -/
theorem not_isApart_of_value {i : Int} (h : x.value = i * ticksPerUnit) (hi : i.natAbs < integerBound) :
    ¬IsApart (.finite x) := by
  rintro (hfraction | hbeyond)
  · exact hfraction ((value_emod_eq_zero_iff x).1 (by rw [h, Int.mul_emod_left]))
  · have hmagnitude : x.magnitude = i.natAbs * ticksPerUnit := by
      rw [← Int.natAbs_natCast ticksPerUnit, ← Int.natAbs_mul, ← h, Finite.value]
      split <;> simp
    have hlt := Nat.mul_lt_mul_of_pos_right hi ticksPerUnit_pos
    exact absurd hbeyond (by rw [IsBeyondIntegers]; omega)

/-! ## Numerals of doubles -/

/-- The text of a number that is not whole is a real numeral. -/
theorem exists_numeral_of_fraction (h : HasFraction (.finite x)) : ∃ n : Numeral,
    Numeral.read? (textChars (.finite x)) = some (n, []) ∧ n.isReal ∧ n.double = .finite x := by
  have he : (x.shortest .up).exponent < 0 := Int.not_le.1 ((exponent_shortest_nonneg_iff x .up).not.2 h)
  obtain ⟨whole, fraction, hne, hwhole, hfraction, hplain, hvalue, hplaces⟩ := plainDigits_of_neg he
  have hspan : spanDigits fraction = (fraction, []) := by simpa using spanDigits_word hfraction .nil
  have hread := Numeral.read?_signed x.negative hne hwhole (.cons (by decide) : StopsDigits ('.' :: fraction))
  rw [textChars_finite, hplain]
  refine ⟨⟨x.negative, whole, some fraction, none⟩, ?_, rfl, ?_⟩
  · rw [← Numeral.signed_append, hread]
    simp [Numeral.fractionOf, Numeral.exponentOf?, hspan]
  · have hdecimal : Numeral.decimal ⟨x.negative, whole, some fraction, none⟩ = x.shortest .up := by
      simp [Numeral.decimal, hvalue, hplaces]
    rw [Numeral.double, hdecimal, ofDecimal_shortest_self]

/-- The text of a whole number is an integer numeral, for the number that its shortest digits write. -/
theorem exists_numeral_of_whole (h : ¬HasFraction (.finite x)) : ∃ n : Numeral,
    Numeral.read? (textChars (.finite x)) = some (n, []) ∧ n.isReal = false ∧ n.double = .finite x ∧
      n.integer = x.integer := by
  obtain ⟨word, hne, hword, hplain, hnumber⟩ := plainDigits_of_nonneg (exponent_of_whole h)
  change digitsValue word = (x.shortest .up).wholeNumber at hnumber
  have hread := Numeral.read?_whole x.negative hne hword (by simp [EndsLiteral] : EndsLiteral [])
  have hvalue := readDecimal?_plainDigits x.negative (x.shortest .up)
  rw [hplain, readDecimal?_digits hne hword, Option.map_some, ofDecimal_shortest_self] at hvalue
  rw [textChars_finite, hplain]
  refine ⟨⟨x.negative, word, none, none⟩, ?_, rfl, ?_, ?_⟩
  · rw [← hread, List.append_nil]
  · simpa [Numeral.double, Numeral.decimal] using hvalue
  · rw [Numeral.integer, hnumber, Finite.integer]

end Double

/-- The numeral stands for an integer: it has no point or exponent, and the number has 64 bits. -/
def Numeral.IsInteger (n : Numeral) : Prop :=
  n.isReal = false ∧ -0x8000000000000000 ≤ n.integer ∧ n.integer < 0x8000000000000000

instance : DecidablePred Numeral.IsInteger := fun _ => inferInstanceAs (Decidable (_ ∧ _))

/-! ## Literals -/

/-- The text is a numeral for a real number, and for this one. -/
def IsRealLiteral (s : String) (x : Double) : Prop :=
  ∃ n : Numeral, Numeral.read? s.toList = some (n, []) ∧ n.isReal ∧ n.double = x

namespace Scalar

open Double

theorem toList_literal (x : Double) : (real x).literal.toList = x.textChars := by
  rw [literal, Double.text, String.toList_ofList]

/-- The numeral of a finite number has its value, and stands for an integer unless the number is none. -/
theorem exists_numeral (x : Finite) : ∃ n : Numeral, Numeral.read? (real (.finite x)).literal.toList = some (n, []) ∧
    n.double = .finite x ∧ (n.isReal ↔ HasFraction (.finite x)) ∧ (n.IsInteger ↔ ¬IsApart (.finite x)) ∧
    (¬IsApart (.finite x) → n.integer = x.integer) := by
  rw [toList_literal]
  by_cases h : HasFraction (.finite x)
  · obtain ⟨n, hread, hreal, hdouble⟩ := exists_numeral_of_fraction h
    refine ⟨n, hread, hdouble, iff_of_true hreal h, ?_, fun hin => absurd (.inl h) hin⟩
    exact iff_of_false (fun hn => by simp [hn.1] at hreal) (not_not_intro (.inl h))
  · obtain ⟨n, hread, hreal, hdouble, hinteger⟩ := exists_numeral_of_whole h
    refine ⟨n, hread, hdouble, iff_of_false (by simp [hreal]) h, ?_, fun _ => hinteger⟩
    have hapart : IsApart (.finite x) ↔ IsBeyondIntegers (.finite x) := or_iff_right h
    rw [Numeral.IsInteger, hinteger, hapart, and_iff_right hreal]
    exact integer_inRange_iff h

/-- Only finite numbers have numerals. -/
theorem not_numeral {x : Double} (h : ¬x.IsFinite) (n : Numeral) :
    Numeral.read? (real x).literal.toList ≠ some (n, []) := by
  rw [toList_literal]
  cases x with
  | finite x => exact absurd trivial h
  | nan => nofun
  | infinite negative => cases negative <;> nofun

/-- The literal of a double stands for a real number exactly when the double is no whole number. -/
theorem isRealLiteral_iff (x : Double) : IsRealLiteral (real x).literal x ↔ x.HasFraction := by
  cases x with
  | finite x =>
    obtain ⟨n, hread, hdouble, hreal, -⟩ := exists_numeral x
    constructor
    · rintro ⟨m, hm, hmreal, -⟩
      obtain rfl : n = m := by simpa [hread] using hm
      exact hreal.1 hmreal
    · exact fun h => ⟨n, hread, hreal.2 h, hdouble⟩
  | nan | infinite negative =>
    refine iff_of_false ?_ id
    rintro ⟨n, hn, -⟩
    exact not_numeral id n hn

end Scalar

/-- A numeral starts with a digit, or with a minus and a digit. -/
theorem Numeral.exists_eq_signed {cs : List Char} {p : Numeral × List Char} (h : read? cs = some p) :
    ∃ negative c ds, c.isDigit ∧ cs = Double.signed negative (c :: ds) := by
  have hsign : cs = Double.signed (sign cs).1 (sign cs).2 := by
    unfold sign
    split <;> rfl
  have hword : (spanDigits (sign cs).2).1 ≠ [] := by
    intro hnil
    simp [read?, hnil] at h
  cases hds : (sign cs).2 with
  | nil => exact absurd (by rw [hds]; rfl) hword
  | cons c ds =>
    refine ⟨(sign cs).1, c, ds, ?_, by rw [← hds]; exact hsign⟩
    refine Decidable.byContradiction fun hc => hword ?_
    rw [hds, spanDigits, List.takeWhile_cons_of_neg hc]

theorem Literal.read?_of_numeral {cs rest : List Char} {n : Numeral} (h : Numeral.read? cs = some (n, rest)) :
    read? cs = some (n.value, rest) := by
  obtain ⟨negative, c, ds, hc, rfl⟩ := Numeral.exists_eq_signed h
  rw [read?_signed negative hc ds, h, Option.map_some]

/-! ## Columns -/

namespace Sql.Columns

open Double

/--
What a default stands for is what its text says. A numeral is an integer if it is written as one and has 64 bits; any other
is a real number, and `reads` is the engine's way to find it. The names of infinity and NaN are words like any other, and
nothing is written with a minus and a word.

A column with the affinity of integers or of none keeps integers, one of real numbers makes them real, and one of texts
keeps no number. Real numbers are kept unless they are integers, of which no column makes a number that is none.
-/
structure ReadsDefaults (columns : Columns) (reads : Numeral → Double) : Prop extends columns.KeepsTexts where
  numeral : ∀ {s n}, Numeral.read? s.toList = some (n, []) → columns.default? s =
    some (if n.IsInteger then .integer (Int64.ofInt n.integer) else .real (reads n))
  infinity : columns.default? "inf" = some (.text "inf")
  nan : columns.default? "NaN" = some (.text "NaN")
  minus : columns.default? "-inf" = none
  text : ∀ v x, columns.keep .text v ≠ .real (.finite x)
  integer : ∀ {column} i, column = .unchanged ∨ column = .numeric → columns.keep column (.integer i) = .integer i
  toReal : ∀ i, columns.keep .real (.integer i) = .real (ofInt i.toInt)
  apart : ∀ {column x}, column ≠ .text → IsApart x → columns.keep column (.real x) = .real x
  whole : ∀ {column x y}, column ≠ .text → columns.keep column (.real x) = .real y → IsApart y → IsApart x

namespace ReadsDefaults

variable {columns : Columns} {reads : Numeral → Double} {x : Finite} (h : columns.ReadsDefaults reads)
include h

/-- What the literal of a finite number stands for as a default. -/
theorem default?_literal {n : Numeral} (hn : Numeral.read? (Scalar.real (.finite x)).literal.toList = some (n, [])) :
    columns.default? (Scalar.real (.finite x)).literal =
      some (if IsApart (.finite x) then .real (reads n) else .integer (Int64.ofInt n.integer)) := by
  obtain ⟨m, hread, -, -, hinteger, -⟩ := Scalar.exists_numeral x
  obtain rfl : m = n := by simpa [hread] using hn
  rw [h.numeral hread]
  by_cases hx : IsApart (.finite x)
  · rw [if_pos hx, if_neg (hinteger.not.2 (not_not_intro hx))]
  · rw [if_neg hx, if_pos (hinteger.2 hx)]

/-- A column holds a number that no integer is if it is the default, and the column is not for texts. -/
theorem keep_real_iff (hx : IsApart (.finite x)) (column : Affinity) (y : Double) :
    columns.keep column (.real y) = .real (.finite x) ↔ column ≠ .text ∧ y = .finite x := by
  by_cases hcolumn : column = .text
  · rw [hcolumn]
    exact iff_of_false (h.text _ _) (fun hne => hne.1 rfl)
  rw [and_iff_right hcolumn]
  constructor
  · intro hkeep
    have hy := h.whole hcolumn hkeep hx
    exact Stored.real.inj ((h.apart hcolumn hy).symm.trans hkeep)
  · rintro rfl
    exact h.apart hcolumn hx

/-- A column holds a number that is an integer if it makes integers real. -/
theorem keep_integer_iff (hx : ¬IsApart (.finite x)) (column : Affinity) :
    columns.keep column (.integer (Int64.ofInt x.integer)) = .real (.finite x) ↔
      column = .real ∧ Double.finite x ≠ zero true := by
  obtain ⟨hwhole, hinside⟩ := not_or.1 hx
  cases column with
  | text => exact iff_of_false (h.text _ _) (fun hne => by cases hne.1)
  | unchanged => simp [h.integer]
  | numeric => simp [h.integer]
  | real =>
    have hrange := (integer_inRange_iff hwhole).2 hinside
    have hint : (Int64.ofInt x.integer).toInt = x.integer := Int64.toInt_ofInt_of_le hrange.1 hrange.2
    simp [h.toReal, hint, ofInt_integer_iff hwhole]

/-- No column makes a number of a word. -/
theorem keep_word_ne {s : String} (hs : IsWord s) (column : Affinity) (x : Double) :
    columns.keep column (.text s) ≠ .real x := by
  rw [h.keep column hs]
  exact Stored.noConfusion

/-- Whether a column holds the double that was meant as its default. -/
theorem holds_default_iff {x : Double} {v : Stored} (hv : columns.default? (Scalar.real x).literal = some v)
    (column : Affinity) : columns.keep column v = .real x ↔
      column ≠ .text ∧ if x.IsApart then v = .real x else column = .real ∧ x.IsFinite ∧ x ≠ zero true := by
  have hword : ∀ {s}, IsWord s → columns.default? (Scalar.real x).literal = some (.text s) →
      columns.keep column v ≠ .real x := by
    intro s hs hdefault
    obtain rfl := Option.some.inj (hv.symm.trans hdefault)
    exact h.keep_word_ne hs column x
  cases x with
  | nan =>
    refine iff_of_false (hword ⟨'N', by decide, rfl⟩ h.nan) ?_
    simp [IsApart, HasFraction, IsBeyondIntegers, IsFinite]
  | infinite negative =>
    refine iff_of_false ?_ (by simp [IsApart, HasFraction, IsBeyondIntegers, IsFinite])
    cases negative with
    | true => cases h.minus.symm.trans hv
    | false => exact hword ⟨'i', by decide, rfl⟩ h.infinity
  | finite x =>
    obtain ⟨n, hread, -, -, -, hinteger⟩ := Scalar.exists_numeral x
    obtain rfl := Option.some.inj ((h.default?_literal hread).symm.trans hv)
    by_cases hx : IsApart (.finite x)
    · rw [if_pos hx, if_pos hx, h.keep_real_iff hx, Stored.real.injEq]
    · rw [if_neg hx, if_neg hx, hinteger hx, h.keep_integer_iff hx]
      constructor
      · rintro ⟨rfl, hzero⟩
        exact ⟨by decide, rfl, trivial, hzero⟩
      · exact fun h => ⟨h.2.1, h.2.2.2⟩

end ReadsDefaults

end Sql.Columns

/-! ## The engine that the library runs on -/

namespace Engine

open Double

theorem Stored.asText_ne_real (v : Stored) (x : Finite) : v.asText ≠ .real (.finite x) := by
  cases v with
  | real y => cases y <;> simp [asText, chars?]
  | _ => simp [asText, chars?]

/-- An integer that a number is taken for is the number, and well inside 64 bits. -/
theorem Stored.value_of_wholeValue? {x : Double} {i : Int64} (h : wholeValue? x = some i) :
    ∃ y : Finite, x = .finite y ∧ y.value = i.toInt * ticksPerUnit ∧ i.toInt.natAbs < integerBound := by
  cases x with
  | nan | infinite negative => cases h
  | finite y =>
    rw [wholeValue?] at h
    split at h
    · next hwhole =>
      obtain ⟨hmod, hlo, hhi⟩ := hwhole
      have hint : i.toInt = y.value / ticksPerUnit := by
        rw [← Option.some.inj h]
        exact Int64.toInt_ofInt_of_le (by omega) (by omega)
      have hbound : integerBound = 0x8000000000000000 := rfl
      refine ⟨y, rfl, ?_, by omega⟩
      rw [hint, Int.ediv_mul_cancel_of_emod_eq_zero hmod]
    · cases h

/-- A real number stays as it is, or is an integer. -/
theorem Stored.asNumber_real (x : Double) : asNumber (.real x) = .real x ∨
    ∃ y : Finite, x = .finite y ∧ ∃ i : Int64, asNumber (.real x) = .integer i ∧
      y.value = i.toInt * ticksPerUnit ∧ i.toInt.natAbs < integerBound := by
  rw [asNumber, whole]
  cases h : wholeValue? x with
  | none => exact .inl rfl
  | some i =>
    obtain ⟨y, hy, hvalue, hbound⟩ := value_of_wholeValue? h
    exact .inr ⟨y, hy, i, rfl, hvalue, hbound⟩

theorem readsDefaults_columns : columns.ReadsDefaults Numeral.double where
  toKeepsTexts := keepsTexts_columns
  numeral {s n} h := by
    show Literal.default? s = some n.value
    rw [Literal.default?, Literal.read?_of_numeral h]
  infinity := by decide +kernel
  nan := by decide +kernel
  minus := by decide +kernel
  text := Stored.asText_ne_real
  integer i h := by rcases h with rfl | rfl <;> rfl
  toReal _ := rfl
  apart := by
    intro column x hcolumn hx
    have hnumber : Stored.asNumber (.real x) = .real x := by
      obtain h | ⟨y, rfl, i, -, hvalue, hbound⟩ := Stored.asNumber_real x
      · exact h
      · exact absurd hx (not_isApart_of_value hvalue hbound)
    show column.apply (.real x) = .real x
    cases column with
    | text => exact absurd rfl hcolumn
    | unchanged => rfl
    | numeric => exact hnumber
    | real => rw [Affinity.apply, hnumber]
  whole := by
    intro column x y hcolumn hkeep hy
    change column.apply (.real x) = .real y at hkeep
    cases column with
    | text => exact absurd rfl hcolumn
    | unchanged => exact Stored.real.inj hkeep ▸ hy
    | numeric =>
      rw [Affinity.apply] at hkeep
      obtain h | ⟨z, rfl, i, h, -⟩ := Stored.asNumber_real x
      · exact Stored.real.inj (h.symm.trans hkeep) ▸ hy
      · cases h.symm.trans hkeep
    | real =>
      rw [Affinity.apply] at hkeep
      obtain h | ⟨z, rfl, i, h, hvalue, hbound⟩ := Stored.asNumber_real x
      · rw [h] at hkeep
        exact Stored.real.inj hkeep ▸ hy
      · -- the integer is a double, so that as a double it is the same number
        rw [h] at hkeep
        obtain ⟨z', hz', -⟩ := exists_ofInt_eq i
        have hvalue' := (value_ofInt_eq_iff i hz').2 ((exists_value_eq_iff i).1 ⟨z, hvalue⟩)
        obtain rfl : ofInt i.toInt = y := Stored.real.inj hkeep
        rw [hz'] at hy
        exact absurd hy (not_isApart_of_value hvalue' hbound)

end Engine

namespace Scalar

open Double

/--
**What the literal of a double stands for.** It is a literal for a real number exactly where the number is finite and not
whole, and it is a numeral of the double's value exactly where the double is finite. As a default it is taken for an integer
if the double is whole and below 2^63, and for what the engine reads the numeral as if it is any other finite number; minus
infinity is the one double that is refused. So a column, if it does not turn numbers into texts, holds the double that was
its default if the engine reads the numeral as it, or if the column turns integers into real numbers and the double is such
an integer and not negative zero.
-/
theorem real_literal {columns : Sql.Columns} {reads : Numeral → Double} (h : columns.ReadsDefaults reads) (x : Double) :
    (IsRealLiteral (real x).literal x ↔ x.HasFraction) ∧
    ((∃ n, Numeral.read? (real x).literal.toList = some (n, []) ∧ n.double = x) ↔ x.IsFinite) ∧
    (∀ n, Numeral.read? (real x).literal.toList = some (n, []) → columns.default? (real x).literal =
      some (if x.IsApart then .real (reads n) else .integer (Int64.ofInt n.integer))) ∧
    (columns.default? (real x).literal = none ↔ x = .infinite true) ∧
    ∀ v, columns.default? (real x).literal = some v → ∀ column, columns.keep column v = .real x ↔
      column ≠ .text ∧ if x.IsApart then v = .real x else column = .real ∧ x.IsFinite ∧ x ≠ zero true := by
  refine ⟨isRealLiteral_iff x, ?_, ?_⟩
  · cases x with
    | finite x =>
      obtain ⟨n, hread, hdouble, -⟩ := exists_numeral x
      exact iff_of_true ⟨n, hread, hdouble⟩ trivial
    | nan | infinite negative => exact iff_of_false (fun ⟨n, hn, _⟩ => not_numeral id n hn) id
  refine ⟨?_, ?_, fun v hv => h.holds_default_iff hv⟩
  · intro n hn
    cases x with
    | finite x => exact h.default?_literal hn
    | nan | infinite negative => exact absurd hn (not_numeral id n)
  · cases x with
    | finite x =>
      obtain ⟨n, hread, -⟩ := exists_numeral x
      rw [h.default?_literal hread]
      exact iff_of_false (Option.some_ne_none _) Double.noConfusion
    | nan =>
      have hdefault : columns.default? (real .nan).literal = some (.text "NaN") := h.nan
      exact iff_of_false (by simp [hdefault]) Double.noConfusion
    | infinite negative =>
      cases negative with
      | true => exact iff_of_true h.minus rfl
      | false =>
        have hdefault : columns.default? (real (.infinite false)).literal = some (.text "inf") := h.infinity
        exact iff_of_false (by simp [hdefault]) (by decide)

/-- One half is written with a point, and held by every column that does not turn it into a text. -/
theorem real_literal_half :
    let half : Double := .finite ⟨false, 1022 * binade, by decide⟩
    Engine.columns.ReadsDefaults Numeral.double ∧ (real half).literal = "0.5" ∧ IsRealLiteral "0.5" half ∧
      ∃ v, Engine.columns.default? "0.5" = some v ∧
        ∀ column, Engine.columns.keep column v = .real half ↔ column ≠ .text := by
  intro half
  have hliteral : (real half).literal = "0.5" := by decide +kernel
  have hfraction : half.HasFraction := by decide +kernel
  obtain ⟨hreal, hnumeral, hvalue, -, hkeep⟩ := real_literal readsDefaults_columns half
  obtain ⟨n, hn, hdouble⟩ := hnumeral.2 trivial
  have hdefault := hvalue n hn
  rw [if_pos (.inl hfraction), hdouble] at hdefault
  refine ⟨readsDefaults_columns, hliteral, hliteral ▸ hreal.2 hfraction, .real half, hliteral ▸ hdefault, fun column => ?_⟩
  rw [hkeep _ hdefault column, if_pos (.inl hfraction), eq_self, and_true]

/-- One is written as an integer, and minus infinity as nothing at all. -/
theorem not_isRealLiteral_one :
    let one : Double := .finite ⟨false, 1023 * binade, by decide⟩
    ¬(∀ x : Double, IsRealLiteral (real x).literal x) ∧
      (real one).literal = "1" ∧ Literal.default? (real one).literal = some (.integer 1) ∧
      (real (.infinite true)).literal = "-inf" ∧ Literal.default? (real (.infinite true)).literal = none := by
  refine ⟨fun h => ?_, by decide +kernel, by decide +kernel, by decide +kernel, by decide +kernel⟩
  have hone := (isRealLiteral_iff _).1 (h (.finite ⟨false, 1023 * binade, by decide⟩))
  have hwhole : (Finite.mk false (1023 * binade) (by decide)).magnitude % ticksPerUnit = 0 := by decide +kernel
  exact hone hwhole

end Scalar

end TypedStorage
