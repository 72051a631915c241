/-
The stored text of an instant sorts like the instant (`Timestamp.sorts`). Every field of the text has a width of its own
and zeros in front, and the fields come from the longest span of time to the shortest, so texts are ordered field by
field (`chars_lt_iff`). Days are ordered as the dates that name them (`ofDays_lt_iff`), and a leap second is written as
second 60, which comes after all of second 59 and before the next minute (`clock_lt_iff`).

No column takes such a text for a number, whatever its affinity (`isWord_text`), so it is kept and compared as text.
-/
import TypedStorage.Proofs.Scalar.Columns
import TypedStorage.Proofs.Time.Edges
import TypedStorage.Proofs.Time.Loose
import Mathlib.Tactic.IntervalCases

namespace TypedStorage

/-! ## The calendar -/

namespace Time

/-- The order of the calendar. -/
def Date.lt (d e : Date) : Prop :=
  d.year < e.year ∨ d.year = e.year ∧ (d.month < e.month ∨ d.month = e.month ∧ d.day < e.day)

/-- The first day of a month. -/
def monthStart (year : Int) (month : Nat) : Int := (Date.mk year month 1).toDays

theorem toDays_eq (d : Date) : d.toDays = monthStart d.year d.month + d.day - 1 := by
  simp only [monthStart, Date.toDays]
  omega

/-- A month starts where the one before it ends. -/
theorem monthStart_succ (year : Int) {month : Nat} (h1 : 1 ≤ month) (h12 : month < 12) :
    monthStart year (month + 1) = monthStart year month + daysInMonth year month := by
  unfold monthStart Date.toDays
  interval_cases month
  case «2» =>
    simp [daysInMonth, isLeapYear]
    split <;> omega
  all_goals
    simp [daysInMonth]
    omega

theorem monthStart_le (year : Int) {m n : Nat} (h1 : 1 ≤ m) (h : m < n) (h12 : n ≤ 12) :
    monthStart year m + daysInMonth year m ≤ monthStart year n := by
  induction n, h using Nat.le_induction with
  | base => rw [monthStart_succ year h1 (by omega)]
  | succ n hn ih =>
    have := ih (by omega)
    have := monthStart_succ year (by omega : 1 ≤ n) (by omega)
    omega

/-- Later days of the calendar have more days before them. -/
theorem toDays_lt_of_lt {d e : Date} (hd : d.isValid) (he : e.isValid) (h : d.lt e) : d.toDays < e.toDays := by
  have hyears := yearStart_le_toDays hd
  have hyears' := yearStart_le_toDays he
  have hsum := toDays_eq d
  have hsum' := toDays_eq e
  simp only [Date.isValid, Bool.and_eq_true, decide_eq_true_eq] at hd he
  rcases h with h | ⟨hy, h | ⟨hm, h⟩⟩
  · have := yearStart_le (by omega : d.year + 1 ≤ e.year)
    omega
  · have := monthStart_le d.year hd.1.1.1 h he.1.1.2
    rw [← hy] at hsum'
    omega
  · rw [← hy, ← hm] at hsum'
    omega

theorem Date.lt_or_eq_or_gt (d e : Date) : d.lt e ∨ d = e ∨ e.lt d := by
  obtain ⟨year, month, day⟩ := d
  obtain ⟨year', month', day'⟩ := e
  simp only [Date.lt, Date.mk.injEq]
  omega

/-- Days are ordered as the dates that name them. -/
theorem ofDays_lt_iff {m n : Int} : (Date.ofDays m).lt (Date.ofDays n) ↔ m < n := by
  have hlt : ∀ {m n : Int}, (Date.ofDays m).lt (Date.ofDays n) → m < n := by
    intro m n h
    have := toDays_lt_of_lt (isValid_ofDays m) (isValid_ofDays n) h
    rwa [toDays_ofDays, toDays_ofDays] at this
  refine ⟨hlt, fun h => ?_⟩
  rcases Date.lt_or_eq_or_gt (Date.ofDays m) (Date.ofDays n) with hd | hd | hd
  · exact hd
  · have hdays := congrArg Date.toDays hd
    rw [toDays_ofDays, toDays_ofDays] at hdays
    omega
  · have := hlt hd
    omega

/-- An order that looks at the day first looks at the year, the month and the day of the month in turn. -/
theorem Date.lt_or_eq_and_iff {d e : Date} {p : Prop} : d.lt e ∨ d = e ∧ p ↔ d.year < e.year ∨ d.year = e.year ∧
    (d.month < e.month ∨ d.month = e.month ∧ (d.day < e.day ∨ d.day = e.day ∧ p)) := by
  obtain ⟨year, month, day⟩ := d
  obtain ⟨year', month', day'⟩ := e
  simp only [Date.lt, Date.mk.injEq]
  grind

end Time

namespace Timestamp

open Time Text

/-! ## Texts of instants -/

/-- Years of four digits sort as their digits do. -/
theorem yearDigits_append_lt_iff {m n : Int} (hm : 0 ≤ m ∧ m ≤ 9999) (hn : 0 ≤ n ∧ n ≤ 9999) (r r' : List Char) :
    yearDigits m ++ r < yearDigits n ++ r' ↔ m < n ∨ m = n ∧ r < r' := by
  rw [yearDigits, yearDigits, if_pos hm, if_pos hn, fixedDigits_append_lt_iff (by omega) (by omega)]
  have hlt : m.toNat < n.toNat ↔ m < n := by omega
  have heq : m.toNat = n.toNat ↔ m = n := by omega
  rw [hlt, heq]

/-- Times of one day sort as their hours, minutes, seconds and fractions do, a leap second after second 59. -/
theorem clock_lt_iff {s s' n n' : Nat} (hn : n < 2 * second) (hn' : n' < 2 * second)
    (hleap : second ≤ n → s % 60 = 59) (hleap' : second ≤ n' → s' % 60 = 59) :
    (s / 3600 < s' / 3600 ∨ s / 3600 = s' / 3600 ∧ (s / 60 % 60 < s' / 60 % 60 ∨ s / 60 % 60 = s' / 60 % 60 ∧
      (s % 60 + n / second < s' % 60 + n' / second ∨ s % 60 + n / second = s' % 60 + n' / second ∧
        n % second < n' % second))) ↔ s < s' ∨ s = s' ∧ n < n' := by
  unfold second at *
  omega

theorem date_eq_iff {a b : Timestamp} : a.date = b.date ↔ a.seconds / 86400 = b.seconds / 86400 := by
  refine ⟨fun h => ?_, fun h => by rw [date, date, h]⟩
  have := congrArg Date.toDays h
  rwa [date, date, toDays_ofDays, toDays_ofDays] at this

/-- Time order is the order of the days, and on one day that of the clock. -/
theorem lt_iff_date {a b : Timestamp} : a.lt b ↔ a.date.lt b.date ∨ a.date = b.date ∧
    (a.secondOfDay < b.secondOfDay ∨ a.secondOfDay = b.secondOfDay ∧ a.nanos < b.nanos) := by
  rw [date_eq_iff, date, date, ofDays_lt_iff]
  unfold Timestamp.lt secondOfDay
  omega

/-- The fields of the clock fit their widths. -/
theorem clock_lt_widths (t : Timestamp) : t.secondOfDay / 3600 < 10 ^ 2 ∧ t.secondOfDay / 60 % 60 < 10 ^ 2 ∧
    t.secondOfDay % 60 + t.nanos / second < 10 ^ 2 ∧ t.nanos % second < 10 ^ 9 := by
  have := t.secondOfDay_lt
  have := t.nanos_lt
  unfold second at this ⊢
  omega

theorem chars_lt_iff {a b : Timestamp} (ha : a.HasPlainYear) (hb : b.HasPlainYear) : a.chars < b.chars ↔ a.lt b := by
  obtain ⟨hhour, hminute, hsecond, hnanos⟩ := a.clock_lt_widths
  obtain ⟨hhour', hminute', hsecond', hnanos'⟩ := b.clock_lt_widths
  have hyear : ∀ r r', yearDigits a.date.year ++ r < yearDigits b.date.year ++ r' ↔ _ := yearDigits_append_lt_iff ha hb
  have hclock := clock_lt_iff a.nanos_lt b.nanos_lt secondOfDay_mod secondOfDay_mod
  rw [lt_iff_date, Date.lt_or_eq_and_iff, ← hclock]
  -- field by field; the marks between the fields are the same
  unfold chars clockChars
  simp only [List.append_assoc, List.cons_append, hyear, List.cons_lt_cons_iff, Char.lt_irrefl, false_or, true_and,
    fixedDigits_append_lt_iff a.date_month_lt b.date_month_lt, fixedDigits_append_lt_iff a.date_day_lt b.date_day_lt,
    fixedDigits_append_lt_iff hhour hhour', fixedDigits_append_lt_iff hminute hminute',
    fixedDigits_append_lt_iff hsecond hsecond', fixedDigits_append_lt_iff hnanos hnanos', List.lt_irrefl, and_false,
    or_false]

theorem text_lt_iff {a b : Timestamp} (ha : a.HasPlainYear) (hb : b.HasPlainYear) : a.text < b.text ↔ a.lt b := by
  rw [String.lt_iff, text, text, String.toList_ofList, String.toList_ofList, chars_lt_iff ha hb]

theorem text_inj {a b : Timestamp} (ha : a.HasPlainYear) (hb : b.HasPlainYear) (h : a.text = b.text) : a = b := by
  have hread := ofText?_text ha
  rw [h, ofText?_text hb] at hread
  exact (Option.some.inj hread).symm

/-! ## Columns -/

open Engine

/-- The text of an instant is no number. -/
theorem isWord_text (t : Timestamp) : Sql.IsWord t.text := by
  refine ⟨'Z', ?_, by decide⟩
  rw [text, String.toList_ofList, chars]
  exact List.mem_append_right _ (List.mem_singleton.2 rfl)

/--
**The stored text of an instant sorts like the instant**, by its bytes and in a column of any affinity, both where rows
are ordered by the column and where it is compared with another instant.
-/
theorem sorts {a b : Timestamp} (ha : a.HasPlainYear) (hb : b.HasPlainYear) :
    (a.lt b ↔ utf8Bytes a.text < utf8Bytes b.text) ∧ (a.text = b.text → a = b) ∧
      ∀ columns : Sql.Columns, columns.KeepsTexts → ∀ column : Affinity,
        let cell (t : Timestamp) := columns.keep column (.ofScalar (.timestamp t))
        let bound (t : Timestamp) := columns.operand column (.ofScalar (.timestamp t))
        (columns.compare (cell a) (cell b) = .lt ↔ a.lt b) ∧
        (columns.compare (cell a) (bound b) = .lt ↔ a.lt b) ∧
        (columns.compare (cell a) (bound b) = .gt ↔ b.lt a) := by
  have hbytes : ∀ {a b : Timestamp}, a.HasPlainYear → b.HasPlainYear →
      (a.lt b ↔ utf8Bytes a.text < utf8Bytes b.text) := fun ha hb => by
    rw [utf8Bytes_lt_iff, text_lt_iff ha hb]
  refine ⟨hbytes ha hb, text_inj ha hb, fun columns hc column => ?_⟩
  have hcell : ∀ t : Timestamp, columns.keep column (.ofScalar (.timestamp t)) = .text t.text :=
    fun t => hc.keep column t.isWord_text
  have hbound : ∀ t : Timestamp, columns.operand column (.ofScalar (.timestamp t)) = .text t.text :=
    fun t => hc.operand column t.isWord_text
  simp [hcell, hbound, hc.less, hc.greater, hbytes ha hb, hbytes hb ha]

/-- The last second of a year, a leap second, and the first of the next year. -/
theorem sorts_leapSecond :
    let leap : Timestamp := ⟨1483228799, 1500000001, by decide, by decide, by decide⟩
    let next : Timestamp := ⟨1483228800, 0, by decide, by decide, by decide⟩
    leap.HasPlainYear ∧ next.HasPlainYear ∧ leap.lt next ∧ utf8Bytes leap.text < utf8Bytes next.text ∧
      leap.text = "2016-12-31T23:59:60.500000001Z" ∧ next.text = "2017-01-01T00:00:00.000000000Z" ∧
      ∀ column : Affinity, columns.compare (columns.keep column (.ofScalar (.timestamp leap)))
        (columns.keep column (.ofScalar (.timestamp next))) = .lt := by
  intro leap next
  have hleap : leap.HasPlainYear := by decide +kernel
  have hnext : next.HasPlainYear := by decide +kernel
  have hlt : leap.lt next := .inl (by decide)
  obtain ⟨hbytes, -, hcolumns⟩ := sorts hleap hnext
  exact ⟨hleap, hnext, hlt, hbytes.1 hlt, by decide +kernel, by decide +kernel,
    fun column => (hcolumns columns keepsTexts_columns column).1.2 hlt⟩

end Timestamp

end TypedStorage
