/-
Instants at the edges of the years of four digits. A text that the strict reader takes names a year of four digits,
and its distance from UTC is less than a day, so the instant lies in a year from −1 to 10000 (`year_of_ofText?`). Both
edges are reached, by the last hours of a year that is still to end elsewhere and by the first of one that has begun.
-/
import TypedStorage.Proofs.Time.Text

namespace TypedStorage

/-! ## Digits -/

namespace Text

theorem digitsValue_lt {word : List Char} (h : ∀ c ∈ word, c.isDigit) : digitsValue word < 10 ^ word.length := by
  induction word with
  | nil => simp [digitsValue]
  | cons c word ih =>
    have ih := ih fun d hd => h d (List.mem_cons_of_mem _ hd)
    have hc := h c List.mem_cons_self
    have hdigit : c.toNat - '0'.toNat ≤ 9 := by
      simp only [Char.isDigit, Bool.and_eq_true, decide_eq_true_eq] at hc
      have : c.toNat ≤ 57 := hc.2
      have : '0'.toNat = 48 := rfl
      omega
    have hrest : digitsValue (c :: word) = 10 ^ word.length * (c.toNat - '0'.toNat) + digitsValue word := by
      rw [digitsValue, Nat.ofDigitChars_cons, Nat.ofDigitChars_eq_ofDigitChars_zero, Nat.mul_zero, Nat.zero_add]
      rfl
    have := Nat.mul_le_mul_left (10 ^ word.length) hdigit
    rw [hrest, List.length_cons, Nat.pow_succ]
    omega

theorem lt_of_takeDigits? {width n : Nat} {cs rest : List Char} (h : takeDigits? width cs = some (n, rest)) :
    n < 10 ^ width := by
  rw [takeDigits?] at h
  split at h
  · next hw =>
    cases h
    have := digitsValue_lt (List.all_eq_true.1 hw.2)
    rwa [hw.1] at this
  · cases h

end Text

/-! ## Years and days -/

namespace Time

/-- The first day of a year. -/
def yearStart (year : Int) : Int := (Date.mk year 1 1).toDays

theorem yearStart_add_one (year : Int) :
    yearStart (year + 1) = yearStart year + 365 ∨ yearStart (year + 1) = yearStart year + 366 := by
  simp only [yearStart, Date.toDays]
  omega

/-- Later years start later. -/
theorem yearStart_le {a b : Int} (h : a ≤ b) : yearStart a ≤ yearStart b := by
  induction b, h using Int.leInduction with
  | base => omega
  | succ b _ ih =>
    have := yearStart_add_one b
    omega

/-- A day of the calendar lies in its year. -/
theorem yearStart_le_toDays {d : Date} (h : d.isValid) :
    yearStart d.year ≤ d.toDays ∧ d.toDays < yearStart (d.year + 1) := by
  obtain ⟨year, month, day⟩ := d
  have hlast := Timestamp.daysInMonth_le year month
  simp only [Date.isValid, Bool.and_eq_true, decide_eq_true_eq] at h
  simp only [yearStart, Date.toDays]
  by_cases hm : month ≤ 2
  · simp only [hm, if_true]
    omega
  · simp only [hm, if_false]
    omega

/-- Days that lie between the first days of two years lie in a year between them. -/
theorem year_ofDays {a b days : Int} (ha : yearStart a ≤ days) (hb : days < yearStart b) :
    a ≤ (Date.ofDays days).year ∧ (Date.ofDays days).year < b := by
  have h := yearStart_le_toDays (isValid_ofDays days)
  rw [toDays_ofDays] at h
  refine ⟨?_, ?_⟩ <;> by_contra hn
  · have := yearStart_le (by omega : (Date.ofDays days).year + 1 ≤ a)
    omega
  · have := yearStart_le (by omega : b ≤ (Date.ofDays days).year)
    omega

end Time

/-! ## What the strict reader takes -/

namespace Timestamp

open Time Text

/-- The distance from UTC is less than a day. -/
theorem offset_lt_of_readZone? {skip : List Char → Option (List Char)} {cs rest : List Char} {offset : Int}
    (h : readZone? skip cs = some (offset, rest)) : -86400 < offset ∧ offset < 86400 := by
  unfold readZone? at h
  split at h
  · cases h
    omega
  · cases h
    omega
  · simp only [readOffset?, Option.bind_eq_bind, Option.bind_eq_some_iff, Prod.exists, Option.pure_def] at h
    obtain ⟨negative, _, -, hours, _, -, _, -, minutes, _, -, _, hg, h⟩ := h
    obtain ⟨hlt, hlt'⟩ := by simpa [guard, Option.ite_none_right_eq_some] using hg
    cases h
    split <;> omega

/-- An instant lies at most one day from the date that names it at its place. -/
theorem days_of_ofLocal? {date : Date} {hour minute sec nanos : Nat} {offset : Int} {t : Timestamp}
    (ho : -86400 < offset ∧ offset < 86400) (h : ofLocal? date hour minute sec nanos offset = some t) :
    date.isValid ∧ date.toDays - 1 ≤ t.seconds / 86400 ∧ t.seconds / 86400 ≤ date.toDays + 1 := by
  rw [ofLocal?, Option.ite_none_right_eq_some] at h
  obtain ⟨⟨hvalid, hhour, hminute, hsec⟩, h⟩ := h
  split at h
  next sec' nanos' he =>
    have hsec' : sec' ≤ 59 := by
      split at he <;> cases he <;> omega
    obtain ⟨-, h⟩ := Option.ite_none_right_eq_some.1 h
    rw [ofParts?, Option.dite_none_right_eq_some] at h
    obtain ⟨-, rfl⟩ := by simpa using h
    refine ⟨hvalid, ?_, ?_⟩ <;> dsimp only <;> omega

/-- The strict reader finds the fields of an instant, in a year of four digits. -/
theorem exists_of_ofText? {s : String} {t : Timestamp} (h : ofText? s = some t) :
    ∃ year month day hour minute sec nanos offset, ofLocal? ⟨year, month, day⟩ hour minute sec nanos offset = some t ∧
      0 ≤ year ∧ year ≤ 9999 ∧ -86400 < offset ∧ offset < 86400 := by
  simp only [ofText?, ofChars?, Option.bind_eq_bind, Option.bind_eq_some_iff, Prod.exists] at h
  obtain ⟨year, _, hyear, _, -, month, _, -, _, -, day, _, -, _, -, hour, _, -, _, -, minute, _, -, _, -, sec, _, -,
    nanos, _, -, offset, _, hzone, _, -, h⟩ := h
  have hlt := lt_of_takeDigits? hyear
  exact ⟨year, month, day, hour, minute, sec, nanos, offset, h, by omega, by omega, offset_lt_of_readZone? hzone⟩

/-- **An instant that is read lies in a year from −1 to 10000.** -/
theorem year_of_ofText? {s : String} {t : Timestamp} (h : ofText? s = some t) : -1 ≤ t.year ∧ t.year ≤ 10000 := by
  obtain ⟨year, month, day, hour, minute, sec, nanos, offset, hlocal, hlo, hhi, ho⟩ := exists_of_ofText? h
  obtain ⟨hvalid, hbefore, hafter⟩ := days_of_ofLocal? ho hlocal
  have hdays := yearStart_le_toDays hvalid
  have hprevious := yearStart_add_one (year - 1)
  have hnext := yearStart_add_one (year + 1)
  rw [Int.sub_add_cancel] at hprevious
  dsimp only at hdays
  have hyear : year - 1 ≤ t.year ∧ t.year < year + 1 + 1 := year_ofDays (by omega) (by omega)
  omega

end Timestamp

end TypedStorage
