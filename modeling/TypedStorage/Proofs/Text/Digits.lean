/-
Words of digits and the numbers they stand for: what is written is read back, whatever follows it, and so was written from
one number only. Words of a fixed width need the number to fit; a plain word needs no digit to follow.
-/
import TypedStorage.Text.Bytes
import TypedStorage.Text.Digits
import Mathlib.Algebra.Group.Nat.Defs

namespace TypedStorage.Text

/-! ## Reading back -/

section

variable {α β : Type} {write : α → β} {read? : β → Option α}

/-- What is read back was written from one value only. -/
theorem injective_of_read (h : ∀ x, read? (write x) = some x) : Function.Injective write := by
  intro x y he
  have hx := h x
  rw [he, h y] at hx
  exact (Option.some.inj hx).symm

/-- What the reader refuses was not written. -/
theorem ne_of_read (h : ∀ x, read? (write x) = some x) {y : β} (hy : read? y = none) (x : α) : write x ≠ y := by
  rintro rfl
  rw [h x] at hy
  cases hy

end

/-! ## Text as bytes -/

theorem ofUtf8?_utf8Bytes (s : String) : ofUtf8? (utf8Bytes s) = some s := by
  have hb : (⟨(utf8Bytes s).toArray⟩ : ByteArray) = s.toByteArray := by
    simp [utf8Bytes]
  unfold ofUtf8? String.fromUTF8?
  rw [hb, dif_pos s.isValidUTF8]
  rfl

theorem utf8Bytes_of_ofUtf8? {b : List UInt8} {s : String} (h : ofUtf8? b = some s) : utf8Bytes s = b := by
  unfold ofUtf8? String.fromUTF8? at h
  split at h
  · cases h
    rfl
  · cases h

/-! ## Plain words -/

/-- What follows a word of digits is no digit. -/
def StopsDigits (cs : List Char) : Prop := ∀ c ∈ cs.head?, c.isDigit = false

theorem StopsDigits.nil : StopsDigits [] := by simp [StopsDigits]

theorem StopsDigits.cons {c : Char} {cs : List Char} (h : c.isDigit = false) : StopsDigits (c :: cs) := by
  simpa [StopsDigits] using h

theorem spanDigits_word {word rest : List Char} (hw : ∀ c ∈ word, c.isDigit) (hr : StopsDigits rest) :
    spanDigits (word ++ rest) = (word, rest) := by
  have ht : rest.takeWhile Char.isDigit = [] := by
    cases rest with
    | nil => rfl
    | cons c cs => simp [hr c (by simp)]
  have hd : rest.dropWhile Char.isDigit = rest := by
    cases rest with
    | nil => rfl
    | cons c cs => simp [hr c (by simp)]
  simp only [spanDigits, Prod.mk.injEq]
  rw [List.takeWhile_append_of_pos hw, List.dropWhile_append_of_pos hw, ht, hd, List.append_nil]
  exact ⟨rfl, rfl⟩

theorem natDigits_ne_nil (n : Nat) : natDigits n ≠ [] := Nat.toDigits_ne_nil

theorem isDigit_of_mem_natDigits {n : Nat} {c : Char} (h : c ∈ natDigits n) : c.isDigit :=
  Nat.isDigit_of_mem_toDigits (by decide) (by decide) h

theorem digitsValue_natDigits (n : Nat) : digitsValue (natDigits n) = n := Nat.ofDigitChars_ten_toDigits

theorem natDigits_of_lt {n : Nat} (h : n < 10) : natDigits n = [n.digitChar] := Nat.toDigits_of_lt_base h

theorem natDigits_of_le {n : Nat} (h : 10 ≤ n) : natDigits n = natDigits (n / 10) ++ [(n % 10).digitChar] :=
  Nat.toDigits_of_base_le (by decide) h

/-- A number that is not zero starts with another digit than zero. -/
theorem head?_natDigits {n : Nat} (h : n ≠ 0) (cs : List Char) : (natDigits n ++ cs).head? ≠ some '0' := by
  induction n using Nat.strongRecOn generalizing cs with
  | _ n ih =>
    by_cases hn : n < 10
    · rw [natDigits_of_lt hn]
      simpa using h
    · rw [natDigits_of_le (by omega), List.append_assoc]
      exact ih (n / 10) (by omega) (by omega) _

theorem readNat?_natDigits (n : Nat) : readNat? (natDigits n) = some n := by
  have hd : (natDigits n).all Char.isDigit := List.all_eq_true.2 fun c hc => isDigit_of_mem_natDigits hc
  simp [readNat?, natDigits_ne_nil, hd, digitsValue_natDigits]

theorem isDigit_of_mem_replicate {n : Nat} {c : Char} (h : c ∈ List.replicate n '0') : c.isDigit := by
  rw [List.eq_of_mem_replicate h]
  rfl

/-- What starts with a digit starts with no sign, so it is read as a number without one. -/
theorem readInt?_digit {c : Char} (hc : c.isDigit) (cs : List Char) :
    readInt? (c :: cs) = (readNat? (c :: cs)).map fun n => (n : Int) := by
  have hminus : c ≠ '-' := by rintro rfl; simp at hc
  have hplus : c ≠ '+' := by rintro rfl; simp at hc
  simp [readInt?, hminus, hplus]

theorem readInt?_natDigits (n : Nat) : readInt? (natDigits n) = some (n : Int) := by
  obtain ⟨c, cs, hw⟩ := List.exists_cons_of_ne_nil (natDigits_ne_nil n)
  have hc : c.isDigit := isDigit_of_mem_natDigits (hw ▸ List.mem_cons_self)
  rw [hw, readInt?_digit hc, ← hw, readNat?_natDigits]
  rfl

theorem readInt?_intDigits (i : Int) : readInt? (intDigits i) = some i := by
  unfold intDigits
  split
  · have hr : readInt? ('-' :: natDigits i.natAbs) = some (-(i.natAbs : Int)) := by
      simp [readInt?, readNat?_natDigits]
    rw [hr, Option.some.injEq]
    omega
  · rw [readInt?_natDigits, Option.some.injEq]
    omega

theorem intText_injective : Function.Injective intText := fun _ _ h =>
  injective_of_read readInt?_intDigits (String.ofList_injective h)

/-! ## Words of a fixed width -/

@[simp] theorem length_fixedDigits (width n : Nat) : (fixedDigits width n).length = width := by
  induction width generalizing n with
  | zero => rfl
  | succ width ih => simp [fixedDigits, ih]

theorem isDigit_of_mem_fixedDigits {width n : Nat} {c : Char} (h : c ∈ fixedDigits width n) : c.isDigit := by
  induction width generalizing n with
  | zero => simp [fixedDigits] at h
  | succ width ih =>
    simp only [fixedDigits, List.mem_append, List.mem_singleton] at h
    rcases h with h | rfl
    · exact ih h
    · simp [Nat.isDigit_digitChar, Nat.mod_lt]

theorem digitsValue_append_digit (word : List Char) (d : Nat) (hd : d < 10) :
    digitsValue (word ++ [d.digitChar]) = 10 * digitsValue word + d := by
  unfold digitsValue
  rw [Nat.ofDigitChars_append, Nat.ofDigitChars_cons_digitChar_of_lt_ten hd, Nat.ofDigitChars_nil]

theorem digitsValue_fixedDigits {width n : Nat} (h : n < 10 ^ width) : digitsValue (fixedDigits width n) = n := by
  induction width generalizing n with
  | zero =>
    have : n = 0 := by simpa using h
    simp [fixedDigits, digitsValue, this]
  | succ width ih =>
    rw [Nat.pow_succ] at h
    rw [fixedDigits, digitsValue_append_digit _ _ (Nat.mod_lt _ (by decide)), ih (by omega)]
    omega

theorem takeDigits?_fixedDigits {width n : Nat} (h : n < 10 ^ width) (rest : List Char) :
    takeDigits? width (fixedDigits width n ++ rest) = some (n, rest) := by
  have hl := length_fixedDigits width n
  have ht : (fixedDigits width n ++ rest).take width = fixedDigits width n := by
    rw [List.take_append_of_le_length (by omega), List.take_of_length_le (by omega)]
  have hd : (fixedDigits width n ++ rest).drop width = rest := by
    rw [List.drop_append_of_le_length (by omega), List.drop_of_length_le (by omega), List.nil_append]
  have ha : (fixedDigits width n).all Char.isDigit :=
    List.all_eq_true.2 fun c hc => isDigit_of_mem_fixedDigits hc
  simp [takeDigits?, ht, hd, ha, digitsValue_fixedDigits h]

end TypedStorage.Text
