/-
The calendar: the day that is a number of days after 1970-01-01 exists (`isValid_ofDays`), and counting its days
gives the number back (`toDays_ofDays`).

The year inside an era of 400 years is found by one division, after the leap days have been taken out. That it
is the right year is checked at the first and the last day of each of the 400 years, and holds in between because
the division never goes down as days go up.
-/
import TypedStorage.Time.Civil
import Mathlib.Order.Monotone.Basic
import Mathlib.Algebra.Order.Group.Int

namespace TypedStorage.Time

/-! ## Years of an era -/

/-- The days of an era without its leap days so far. -/
def plainDays (day : Int) : Int := day - day / 1460 + day / 36524 - day / 146096

/-- The days of an era before one of its years, which all start in March. -/
def daysBefore (year : Int) : Int := 365 * year + year / 4 - year / 100 + year / 400

theorem plainDays_le_succ (day : Int) : plainDays day ≤ plainDays (day + 1) := by
  unfold plainDays
  omega

theorem plainDays_le_of_le {day day' : Int} (h : day ≤ day') : plainDays day ≤ plainDays day' :=
  monotone_int_of_le_succ plainDays_le_succ h

/-- The division finds each year on its first day and on its last. -/
theorem plainDays_ends (year : Fin 400) :
    plainDays (daysBefore year) / 365 = year ∧ plainDays (daysBefore (year + 1) - 1) / 365 = year := by
  revert year
  decide +kernel

theorem exists_year {day : Int} (h : 0 ≤ day) :
    ∀ n : Nat, day < daysBefore n → ∃ year : Nat, year < n ∧ daysBefore year ≤ day ∧ day < daysBefore (year + 1)
  | 0, hn => by simp [daysBefore] at hn; omega
  | n + 1, hn => by
    by_cases hd : day < daysBefore n
    · obtain ⟨year, hy, h1, h2⟩ := exists_year h n hd
      exact ⟨year, by omega, h1, h2⟩
    · exact ⟨n, by omega, by omega, by exact_mod_cast hn⟩

/-- The year in which a day of an era lies. -/
theorem year_spec {day year : Int} (h0 : 0 ≤ day) (h1 : day < 146097) (hy : year = plainDays day / 365) :
    0 ≤ year ∧ year < 400 ∧ daysBefore year ≤ day ∧ day < daysBefore (year + 1) := by
  obtain ⟨y, hlt, hlo, hhi⟩ := exists_year h0 400 (by simpa [daysBefore] using h1)
  obtain ⟨hfirst, hlast⟩ := plainDays_ends ⟨y, hlt⟩
  have hle : plainDays day ≤ plainDays (daysBefore (y + 1) - 1) := plainDays_le_of_le (by omega)
  have hge : plainDays (daysBefore y) ≤ plainDays day := plainDays_le_of_le hlo
  have he : year = y := by
    have := Int.ediv_le_ediv (by decide : (0 : Int) < 365) hle
    have := Int.ediv_le_ediv (by decide : (0 : Int) < 365) hge
    simp only at hfirst hlast
    omega
  subst he
  exact ⟨by omega, by omega, hlo, hhi⟩

/-! ## Days of a year -/

/-- The date of a day of a year that starts in March. -/
def Date.ofYearDay (year day : Int) : Date :=
  let month := (5 * day + 2) / 153
  let dayOfMonth := (day - (153 * month + 2) / 5 + 1).toNat
  if month < 10 then ⟨year, (month + 3).toNat, dayOfMonth⟩ else ⟨year + 1, (month - 9).toNat, dayOfMonth⟩

/-- Every number of days is a day of a year of an era. -/
theorem ofDays_eq_ofYearDay (days : Int) : ∃ era year day : Int,
    0 ≤ year ∧ year < 400 ∧ 0 ≤ day ∧ daysBefore year + day < daysBefore (year + 1) ∧
    days + epochShift = era * 146097 + (daysBefore year + day) ∧
    Date.ofDays days = Date.ofYearDay (year + era * 400) day := by
  have hd : 0 ≤ (days + epochShift) % 146097 ∧ (days + epochShift) % 146097 < 146097 := by omega
  obtain ⟨h0, h1, h2, h3⟩ := year_spec hd.1 hd.2 rfl
  refine ⟨(days + epochShift) / 146097, _, _, h0, h1, ?_, ?_, ?_, rfl⟩
  all_goals
    simp only [plainDays, daysBefore] at h0 h1 h2 h3 ⊢
    omega

theorem toDays_ofYearDay {era year day : Int} (h0 : 0 ≤ year) (h1 : year < 400) (h2 : 0 ≤ day) (h3 : day ≤ 365) :
    (Date.ofYearDay (year + era * 400) day).toDays = era * 146097 + (daysBefore year + day) - epochShift := by
  have hera : (year + era * 400) / 400 = era := by omega
  have hyear : (year + era * 400) % 400 = year := by omega
  unfold Date.ofYearDay Date.toDays daysBefore
  dsimp only
  split
  · next hm =>
    have hle : ¬((5 * day + 2) / 153 + 3).toNat ≤ 2 := by omega
    simp only [hle, if_false, hera, hyear]
    omega
  · next hm =>
    have hle : ((5 * day + 2) / 153 - 9).toNat ≤ 2 := by omega
    have hback : year + era * 400 + 1 - 1 = year + era * 400 := by omega
    simp only [hle, if_true, hback, hera, hyear]
    omega

/-- Counting the days of a date gives back the number that it was found by. -/
theorem toDays_ofDays (days : Int) : (Date.ofDays days).toDays = days := by
  obtain ⟨era, year, day, h0, h1, h2, h3, he, hd⟩ := ofDays_eq_ofYearDay days
  have hlast : day ≤ 365 := by
    unfold daysBefore at h3
    omega
  rw [hd, toDays_ofYearDay h0 h1 h2 hlast]
  omega

/-- The last day of a year that ends in February of a leap year is the only one after 28 February. -/
theorem isLeapYear_of_day {year era : Int} (h : daysBefore year + 365 < daysBefore (year + 1)) :
    isLeapYear (year + era * 400 + 1) = true := by
  unfold daysBefore at h
  simp only [isLeapYear, Bool.and_eq_true, Bool.or_eq_true, decide_eq_true_eq, bne_iff_ne, ne_eq]
  omega

theorem isValid_ofYearDay {era year day : Int} (h2 : 0 ≤ day) (h3 : daysBefore year + day < daysBefore (year + 1)) :
    (Date.ofYearDay (year + era * 400) day).isValid = true := by
  have hlast : day ≤ 365 := by
    unfold daysBefore at h3
    omega
  unfold Date.ofYearDay
  dsimp only
  split
  · next hm =>
    have hm : (5 * day + 2) / 153 = 0 ∨ (5 * day + 2) / 153 = 1 ∨ (5 * day + 2) / 153 = 2 ∨ (5 * day + 2) / 153 = 3 ∨
        (5 * day + 2) / 153 = 4 ∨ (5 * day + 2) / 153 = 5 ∨ (5 * day + 2) / 153 = 6 ∨ (5 * day + 2) / 153 = 7 ∨
        (5 * day + 2) / 153 = 8 ∨ (5 * day + 2) / 153 = 9 := by omega
    rcases hm with hm | hm | hm | hm | hm | hm | hm | hm | hm | hm <;>
      simp [hm, Date.isValid, daysInMonth] <;> omega
  · next hm =>
    have hm : (5 * day + 2) / 153 = 10 ∨ (5 * day + 2) / 153 = 11 := by omega
    rcases hm with hm | hm
    · simp [hm, Date.isValid, daysInMonth]
      omega
    · by_cases hd : day = 365
      · subst hd
        simp [Date.isValid, daysInMonth, isLeapYear_of_day h3]
      · have hle : day - 337 + 1 ≤ 28 := by omega
        simp [hm, Date.isValid, daysInMonth]
        split <;> omega

/-- The calendar has the day that is a number of days after 1970-01-01. -/
theorem isValid_ofDays (days : Int) : (Date.ofDays days).isValid = true := by
  obtain ⟨era, year, day, h0, h1, h2, h3, he, hd⟩ := ofDays_eq_ofYearDay days
  rw [hd]
  exact isValid_ofYearDay h2 h3

end TypedStorage.Time
