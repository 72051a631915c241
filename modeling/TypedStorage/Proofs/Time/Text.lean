/-
The stored text of an instant. The strict reader takes it back exactly when the year has four digits and no sign
(`ofText?_text`); the text of any other instant is none that it reads (`ofText?_text_eq_none`).
-/
import TypedStorage.Time.Text
import TypedStorage.Proofs.Text.Digits
import TypedStorage.Proofs.Time.Civil
import Mathlib.Data.Option.Basic

namespace TypedStorage.Timestamp

open Time Text

/-- The year is written with four digits and no sign. -/
def HasPlainYear (t : Timestamp) : Prop := 0 ≤ t.year ∧ t.year ≤ 9999

instance (t : Timestamp) : Decidable t.HasPlainYear := inferInstanceAs (Decidable (_ ∧ _))

/-! ## The clock -/

theorem secondOfDay_lt (t : Timestamp) : t.secondOfDay < 86400 := by
  unfold secondOfDay
  omega

/-- A leap second comes only after second 59 of its minute. -/
theorem secondOfDay_mod {t : Timestamp} (h : second ≤ t.nanos) : t.secondOfDay % 60 = 59 := by
  have := t.leap h
  unfold secondOfDay
  omega

/-- Days and seconds of the day make up the seconds. -/
theorem toDays_date (t : Timestamp) : t.date.toDays * 86400 + (t.secondOfDay : Int) = t.seconds := by
  rw [date, toDays_ofDays]
  unfold secondOfDay
  omega

theorem date_month_lt (t : Timestamp) : t.date.month < 10 ^ 2 := by
  have h := isValid_ofDays (t.seconds / 86400)
  simp only [Date.isValid, Bool.and_eq_true, decide_eq_true_eq] at h
  unfold date
  omega

theorem daysInMonth_le (year : Int) (month : Nat) : daysInMonth year month ≤ 31 := by
  unfold daysInMonth
  split
  · split <;> decide
  all_goals decide

theorem date_day_lt (t : Timestamp) : t.date.day < 10 ^ 2 := by
  have h := isValid_ofDays (t.seconds / 86400)
  have hm := daysInMonth_le (Date.ofDays (t.seconds / 86400)).year (Date.ofDays (t.seconds / 86400)).month
  simp only [Date.isValid, Bool.and_eq_true, decide_eq_true_eq] at h
  unfold date
  omega

/-- The fields that the text shows name the instant that it is the text of. -/
theorem ofLocal?_fields (t : Timestamp) :
    ofLocal? t.date (t.secondOfDay / 3600) (t.secondOfDay / 60 % 60) (t.secondOfDay % 60 + t.nanos / second)
      (t.nanos % second) 0 = some t := by
  have hlt := t.secondOfDay_lt
  have hn := t.nanos_lt
  have hvalid : t.date.isValid = true := isValid_ofDays _
  have hsec : t.secondOfDay % 60 + t.nanos / second ≤ 60 := by
    by_cases hl : second ≤ t.nanos
    · have := secondOfDay_mod hl
      unfold second at hn ⊢
      omega
    · unfold second at hl ⊢
      omega
  have hseconds := t.toDays_date
  have hparts : ofParts? t.seconds t.nanos = some t := by
    unfold ofParts?
    rw [dif_pos ⟨t.inRange, t.nanos_lt, t.leap⟩]
  unfold ofLocal?
  rw [if_pos ⟨hvalid, by omega, by omega, hsec⟩]
  split
  next sec nanos he =>
  have hsn : sec = t.secondOfDay % 60 ∧ nanos = t.nanos := by
    by_cases hl : second ≤ t.nanos
    · have := secondOfDay_mod hl
      unfold second at hl hn he
      split at he <;> simp only [Prod.mk.injEq] at he <;> omega
    · unfold second at hl he
      split at he <;> simp only [Prod.mk.injEq] at he <;> omega
  obtain ⟨rfl, rfl⟩ := hsn
  have hhere : t.date.toDays * 86400
      + ((t.secondOfDay / 3600 * 3600 + t.secondOfDay / 60 % 60 * 60 + t.secondOfDay % 60 : Nat) : Int) = t.seconds := by
    rw [← hseconds]
    omega
  simp only [hhere, Int.sub_zero]
  rw [if_pos t.inRange, hparts]

/-! ## Reading the text -/

theorem expect?_cons (c : Char) (cs : List Char) : expect? c (c :: cs) = some cs := by simp [expect?]

theorem readFraction?_fixedDigits {n : Nat} (h : n < 10 ^ 9) {rest : List Char} (hr : StopsDigits rest) :
    readFraction? ('.' :: (fixedDigits 9 n ++ rest)) = some (n, rest) := by
  have hne : fixedDigits 9 n ≠ [] := by
    intro he
    simpa [he] using length_fixedDigits 9 n
  have ht : (fixedDigits 9 n).take 9 = fixedDigits 9 n := List.take_of_length_le (by simp)
  have hs : spanDigits (fixedDigits 9 n ++ rest) = (fixedDigits 9 n, rest) :=
    spanDigits_word (fun c hc => isDigit_of_mem_fixedDigits hc) hr
  simp [readFraction?, hs, hne, ht, digitsValue_fixedDigits h]

theorem ofChars?_chars {t : Timestamp} (h : t.HasPlainYear) : ofChars? t.chars = some t := by
  obtain ⟨h0, h1⟩ := h
  have hlt := t.secondOfDay_lt
  have hyear : yearDigits t.date.year = fixedDigits 4 t.date.year.toNat := by
    rw [yearDigits, if_pos ⟨h0, h1⟩]
  have hy : t.date.year.toNat < 10 ^ 4 := by
    unfold year at h1
    omega
  have hcast : ((t.date.year.toNat : Nat) : Int) = t.date.year := Int.toNat_of_nonneg h0
  have hnanos : t.nanos % second < 10 ^ 9 := Nat.mod_lt _ (by decide)
  have hsec : t.secondOfDay % 60 + t.nanos / second < 10 ^ 2 := by
    have := t.nanos_lt
    unfold second at this ⊢
    omega
  have hhour : t.secondOfDay / 3600 < 10 ^ 2 := by omega
  have hminute : t.secondOfDay / 60 % 60 < 10 ^ 2 := by omega
  have hz : StopsDigits ['Z'] := .cons (by decide)
  have hzone : readZone? (expect? ':') ['Z'] = some (0, []) := rfl
  unfold ofChars? chars clockChars
  simp only [hyear, List.append_assoc, List.cons_append, takeDigits?_fixedDigits hy,
    takeDigits?_fixedDigits t.date_month_lt, takeDigits?_fixedDigits t.date_day_lt, takeDigits?_fixedDigits hhour,
    takeDigits?_fixedDigits hminute, takeDigits?_fixedDigits hsec, expect?_cons, readFraction?_fixedDigits hnanos hz,
    hzone, separators, hcast, Option.bind_eq_bind, Option.bind_some, List.head?_cons, List.drop_succ_cons,
    List.drop_zero]
  exact t.ofLocal?_fields

theorem ofText?_text {t : Timestamp} (h : t.HasPlainYear) : ofText? t.text = some t := by
  rw [ofText?, text, String.toList_ofList, ofChars?_chars h]

/-- No word of digits is taken off the front of a text that starts with something else. -/
theorem takeDigits?_eq_none {width : Nat} {c : Char} {cs : List Char} (hw : width ≠ 0) (hc : c.isDigit = false) :
    takeDigits? width (c :: cs) = none := by
  obtain ⟨n, rfl⟩ := Nat.exists_eq_succ_of_ne_zero hw
  simp [takeDigits?, hc]

theorem ofText?_text_eq_none {t : Timestamp} (h : ¬t.HasPlainYear) : ofText? t.text = none := by
  have hyear : yearDigits t.date.year
      = (if t.date.year < 0 then '-' else '+') :: paddedDigits 4 t.date.year.natAbs := by
    unfold HasPlainYear year at h
    rw [yearDigits, if_neg h]
  have hsign : (if t.date.year < 0 then '-' else '+' : Char).isDigit = false := by split <;> decide
  rw [ofText?, text, String.toList_ofList]
  unfold ofChars? chars clockChars
  simp only [hyear, List.cons_append, takeDigits?_eq_none (by decide : 4 ≠ 0) hsign]
  rfl

end TypedStorage.Timestamp
