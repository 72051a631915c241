/-
Which doubles are whole numbers, and what their shortest digits show of it: they have places after the point exactly
when the double is no whole number (`exponent_shortest_nonneg_iff`), and they write a number beyond the 64-bit integers
exactly when the double is beyond them (`le_magnitude_of_le_wholeNumber`, `lt_wholeNumber_of_le_magnitude`).

Both come from what the nearest double of a whole number of ticks is: a significand of at most 53 bits, rounded, times a
power of two (`ticks_nearestRank`). So rounding never leaves the multiples of a power of two, and never crosses one.
-/
import TypedStorage.Proofs.Double.Text

namespace TypedStorage

/-- The number that it is if its exponent is not negative. -/
def Decimal.wholeNumber (d : Decimal) : Nat := d.digits * 10 ^ d.exponent.toNat

namespace Double

open Text

/-- Whole numbers are multiples of a power of two when they are counted in ticks. -/
theorem exists_ticksPerUnit_eq : ∃ k, ticksPerUnit = 2 ^ k := by
  unfold ticksPerUnit
  generalize 1074 = k
  exact ⟨k, rfl⟩

theorem ticksPerUnit_pos : 0 < ticksPerUnit := by
  obtain ⟨k, hk⟩ := exists_ticksPerUnit_eq
  rw [hk]
  exact Nat.two_pow_pos k

/-! ## The nearest double of a number of ticks -/

theorem le_roundHalfEven (num den : Nat) : num / den ≤ roundHalfEven num den ∧ roundHalfEven num den ≤ num / den + 1 := by
  unfold roundHalfEven
  dsimp only
  split
  · omega
  split
  · omega
  split <;> omega

/-- The rank of a significand at an exponent; a significand of 2^53 is the first of the next exponent. -/
theorem ticks_significand {shift r : Nat} (hlo : shift = 0 ∨ binade ≤ r) (hhi : r ≤ 2 * binade) :
    ticks (shift * binade + r) = r * 2 ^ shift := by
  have hpos : 0 < binade := by decide
  have hpow : ∀ n, Nat.pow 2 n = 2 ^ n := fun _ => rfl
  rcases Nat.lt_or_ge r binade with hr | hr
  · obtain rfl : shift = 0 := hlo.resolve_right (by omega)
    simp [ticks, hr]
  have hge : ¬shift * binade + r < binade := by omega
  obtain ⟨s, rfl⟩ := Nat.exists_eq_add_of_le hr
  have hsum : shift * binade + (binade + s) = s + binade * (shift + 1) := by rw [Nat.mul_succ, Nat.mul_comm]; omega
  rcases Nat.lt_or_ge s binade with hs | hs
  · rw [ticks, if_neg hge, hsum, Nat.add_mul_mod_self_left, Nat.add_mul_div_left _ _ hpos, Nat.mod_eq_of_lt hs,
      Nat.div_eq_of_lt hs, hpow]
    congr 2
    omega
  · obtain rfl : s = binade := by omega
    rw [ticks, if_neg hge, hsum, Nat.add_mul_mod_self_left, Nat.add_mul_div_left _ _ hpos, Nat.mod_self,
      Nat.div_self hpos, hpow, Nat.add_zero, (by omega : 1 + (shift + 1) - 1 = shift + 1), Nat.pow_succ, Nat.add_mul,
      Nat.mul_comm _ 2, Nat.mul_left_comm, Nat.two_mul]

theorem nearestRank_eq (m : Nat) :
    nearestRank m 1 = (m.log2 - 52) * binade + roundHalfEven m (2 ^ (m.log2 - 52)) := by
  have hpow : ∀ n, Nat.pow 2 n = 2 ^ n := fun _ => rfl
  simp only [nearestRank, Nat.div_one, Nat.one_mul, hpow]

/-- Of a number at most 53 bits are kept, or 2^53 itself where all of them are ones. -/
theorem roundHalfEven_le_binade (m : Nat) : roundHalfEven m (2 ^ (m.log2 - 52)) ≤ 2 * binade := by
  have hb : binade = 2 ^ 52 := rfl
  have hlt : m < 2 ^ 53 * 2 ^ (m.log2 - 52) := by
    rw [← Nat.pow_add]
    exact Nat.lt_of_lt_of_le Nat.lt_log2_self (Nat.pow_le_pow_right (by decide) (by omega))
  have hquotient := Nat.div_lt_of_lt_mul (Nat.mul_comm _ _ ▸ hlt)
  have hround := (le_roundHalfEven m (2 ^ (m.log2 - 52))).2
  omega

/-- The nearest double of a number of ticks is the number with all but its first 53 bits rounded off. -/
theorem ticks_nearestRank (m : Nat) :
    ticks (nearestRank m 1) = roundHalfEven m (2 ^ (m.log2 - 52)) * 2 ^ (m.log2 - 52) := by
  have hb : binade = 2 ^ 52 := rfl
  rw [nearestRank_eq]
  refine ticks_significand ?_ (roundHalfEven_le_binade m)
  rcases Nat.eq_zero_or_pos (m.log2 - 52) with h0 | hpos
  · exact .inl h0
  · refine .inr (Nat.le_trans ?_ (le_roundHalfEven _ _).1)
    have hm : m ≠ 0 := by
      rintro rfl
      simp at hpos
    rw [Nat.le_div_iff_mul_le (Nat.two_pow_pos _), hb, ← Nat.pow_add, Nat.add_sub_cancel' (by omega)]
    exact Nat.log2_self_le hm

/-- A number with no more than 53 bits before its last zeros is a double. -/
theorem ticks_nearestRank_of_dvd {m : Nat} (h : 2 ^ (m.log2 - 52) ∣ m) : ticks (nearestRank m 1) = m := by
  obtain ⟨k, hk⟩ := h
  rw [ticks_nearestRank, congrArg (roundHalfEven · _) (hk.trans (Nat.mul_comm _ _)),
    roundHalfEven_mul _ (Nat.two_pow_pos _), Nat.mul_comm]
  exact hk.symm

variable {m k : Nat}

/-- Multiples of a power of two are rounded to multiples. -/
theorem dvd_ticks_nearestRank (h : 2 ^ k ∣ m) : 2 ^ k ∣ ticks (nearestRank m 1) := by
  rcases Nat.le_total (m.log2 - 52) k with hle | hle
  · rw [ticks_nearestRank_of_dvd ((Nat.pow_dvd_pow 2 hle).trans h)]
    exact h
  · rw [ticks_nearestRank]
    exact (Nat.pow_dvd_pow 2 hle).mul_left _

theorem two_pow_le_ticks_nearestRank (h : 2 ^ k ≤ m) : 2 ^ k ≤ ticks (nearestRank m 1) := by
  have hm : m ≠ 0 := Nat.ne_of_gt (Nat.lt_of_lt_of_le (Nat.two_pow_pos k) h)
  have hk : k ≤ m.log2 := (Nat.le_log2 hm).2 h
  rcases Nat.eq_zero_or_pos (m.log2 - 52) with h0 | hpos
  · rwa [ticks_nearestRank_of_dvd (by rw [h0, Nat.pow_zero]; exact Nat.one_dvd m)]
  · have hr : 2 ^ 52 ≤ m / 2 ^ (m.log2 - 52) := by
      rw [Nat.le_div_iff_mul_le (Nat.two_pow_pos _), ← Nat.pow_add, Nat.add_sub_cancel' (by omega)]
      exact Nat.log2_self_le hm
    rw [ticks_nearestRank]
    calc 2 ^ k ≤ 2 ^ 52 * 2 ^ (m.log2 - 52) := by
          rw [← Nat.pow_add]
          exact Nat.pow_le_pow_right (by decide) (by omega)
      _ ≤ roundHalfEven m (2 ^ (m.log2 - 52)) * 2 ^ (m.log2 - 52) :=
          Nat.mul_le_mul_right _ (Nat.le_trans hr (le_roundHalfEven _ _).1)

theorem ticks_nearestRank_le_two_pow (h : m ≤ 2 ^ k) : ticks (nearestRank m 1) ≤ 2 ^ k := by
  rcases Nat.eq_zero_or_pos (m.log2 - 52) with h0 | hpos
  · rwa [ticks_nearestRank_of_dvd (by rw [h0, Nat.pow_zero]; exact Nat.one_dvd m)]
  have hm : m ≠ 0 := by
    rintro rfl
    simp at hpos
  rcases Nat.eq_or_lt_of_le h with rfl | hlt
  · rw [ticks_nearestRank_of_dvd]
    rw [Nat.log2_two_pow]
    exact Nat.pow_dvd_pow 2 (Nat.sub_le k 52)
  · have hk : m.log2 < k := (Nat.log2_lt hm).2 hlt
    have hr : m / 2 ^ (m.log2 - 52) < 2 ^ 53 := by
      refine Nat.div_lt_of_lt_mul ?_
      rw [← Nat.pow_add, (by omega : m.log2 - 52 + 53 = m.log2 + 1)]
      exact Nat.lt_log2_self
    rw [ticks_nearestRank]
    calc roundHalfEven m (2 ^ (m.log2 - 52)) * 2 ^ (m.log2 - 52)
        ≤ 2 ^ 53 * 2 ^ (m.log2 - 52) := Nat.mul_le_mul_right _ (by have := (le_roundHalfEven m (2 ^ (m.log2 - 52))).2; omega)
      _ ≤ 2 ^ k := by
          rw [← Nat.pow_add]
          exact Nat.pow_le_pow_right (by decide) (by omega)

/-! ## Decimal numbers without a fraction -/

/-- The double that a whole decimal number is nearest to. -/
theorem rank_of_ofDecimal {negative : Bool} {d : Decimal} {x : Finite} (he : 0 ≤ d.exponent)
    (h : ofDecimal negative d = .finite x) :
    x.negative = negative ∧ x.rank = nearestRank (d.wholeNumber * ticksPerUnit) 1 := by
  have hrank : ∀ rank, ofRank negative rank = .finite x → x.negative = negative ∧ x.rank = rank := by
    intro rank h
    unfold ofRank at h
    split at h
    · cases h
      exact ⟨rfl, rfl⟩
    · cases h
  unfold ofDecimal at h
  dsimp only at h
  rw [if_pos he] at h
  split at h
  · next h0 =>
    cases h
    simp [Decimal.wholeNumber, h0, nearestRank, roundHalfEven]
  split at h
  · cases h
  split at h
  · next hsmall => omega
  exact hrank _ h

/-! ## The shortest digits of whole numbers -/

/-- Taking zeros off digits never makes the exponent smaller. -/
theorem exponent_le_stripZeros (fuel : Nat) (d : Decimal) : d.exponent ≤ (stripZeros fuel d).exponent := by
  induction fuel generalizing d with
  | zero => exact Int.le_refl _
  | succ fuel ih =>
    unfold stripZeros
    split
    · exact Int.le_trans (Int.le_of_lt (Int.lt_succ d.exponent)) (ih _)
    · exact Int.le_refl _

/-- As many zeros as there are, up to the fuel, go into the exponent. -/
theorem exponent_stripZeros {n k fuel : Nat} (hn : n ≠ 0) (hk : k ≤ fuel) (e : Int) :
    e + k ≤ (stripZeros fuel ⟨n * 10 ^ k, e⟩).exponent := by
  induction k generalizing fuel e with
  | zero => exact Int.le_trans (by simp) (exponent_le_stripZeros fuel _)
  | succ k ih =>
    obtain ⟨fuel, rfl⟩ := Nat.exists_eq_succ_of_ne_zero (by omega : fuel ≠ 0)
    have hd : n * 10 ^ (k + 1) = 10 * (n * 10 ^ k) := by rw [Nat.pow_succ]; ac_rfl
    have hne : n * 10 ^ (k + 1) ≠ 0 := Nat.mul_ne_zero hn (Nat.ne_of_gt (Nat.pow_pos (by decide)))
    have hstep := ih (by omega : k ≤ fuel) (e + 1)
    rw [stripZeros, if_pos ⟨by rw [hd, Nat.mul_mod_right], hne⟩]
    simp only [hd, Nat.mul_div_cancel_left _ (by decide : 0 < 10)]
    omega

variable {x : Finite}

/-- All places after the point of a whole number are zeros. -/
theorem exists_exact_eq {n : Nat} (h : x.magnitude = n * ticksPerUnit) :
    ∃ k : Nat, k = 1074 ∧ x.exact = ⟨n * 10 ^ k, -k⟩ := by
  have hten : ticksPerUnit * Nat.pow 5 1074 = Nat.pow 10 1074 := by decide +kernel
  have hplaces : (-1074 : Int) = -(1074 : Nat) := rfl
  obtain ⟨k, hk⟩ : ∃ k, k = 1074 := ⟨_, rfl⟩
  refine ⟨k, hk, ?_⟩
  rw [Finite.exact, h, Nat.mul_assoc, hten, hplaces, ← hk, Nat.pow_eq]

theorem length_natDigits_mul_ten_pow {n : Nat} (h : n ≠ 0) (k : Nat) :
    (natDigits (n * 10 ^ k)).length = (natDigits n).length + k := by
  induction k with
  | zero => simp
  | succ k ih =>
    have hne : n * 10 ^ k ≠ 0 := Nat.mul_ne_zero h (Nat.ne_of_gt (Nat.pow_pos (by decide)))
    rw [Nat.pow_succ, ← Nat.mul_assoc, length_natDigits_mul_ten hne, ih]
    omega

/-- Among the numbers with as many digits as it has before the point, a whole number is found itself. -/
theorem find?_neighbours_of_whole {tie : Tie} {n : Nat} (hn : n ≠ 0) (h : x.magnitude = n * ticksPerUnit) :
    (x.neighbours tie (natDigits n).length).find? x.readsBack = some ⟨n, 0⟩ := by
  obtain ⟨k, hk, hexact⟩ := exists_exact_eq h
  have hlength := length_natDigits_mul_ten_pow hn k
  have hpos : 0 < 10 ^ k := Nat.pow_pos (by decide)
  have hrank : x.rank ≠ 0 := by
    intro h0
    have : n * ticksPerUnit ≠ 0 := Nat.mul_ne_zero hn (Nat.ne_of_gt ticksPerUnit_pos)
    rw [← h, Finite.magnitude, h0] at this
    exact this rfl
  have hreads : x.readsBack ⟨n, 0⟩ := by
    have := ofDecimal_shifts x.negative n k (-k)
    rw [← hexact, ofDecimal_exact hrank, Int.add_left_neg] at this
    rw [Finite.readsBack, ← this, decide_eq_true_eq]
  have hneighbours : ∃ d, x.neighbours tie (natDigits n).length = [⟨n, 0⟩, d] := by
    refine ⟨⟨n + 1, 0⟩, ?_⟩
    have hexponent : (((natDigits n).length + k : Nat) : Int) - (natDigits n).length - 1074 = 0 := by omega
    unfold Finite.neighbours
    simp only [hexact, hlength, Nat.pow_eq, hexponent]
    rw [if_neg (by omega), Nat.add_sub_cancel_left, Nat.mul_div_cancel _ hpos,
      if_pos (by rw [Nat.add_mul, Nat.mul_assoc]; omega)]
  obtain ⟨d, hd⟩ := hneighbours
  rw [hd, List.find?_cons_of_pos hreads]

/-- Both neighbours with a number of digits have these digits and no more. -/
theorem exponent_of_mem_neighbours {tie : Tie} {count : Nat} {d : Decimal}
    (hcount : count < (natDigits x.exact.digits).length) (h : d ∈ x.neighbours tie count) :
    d.exponent = (natDigits x.exact.digits).length - count - 1074 := by
  have hpair : ∀ {a b : Decimal}, a.exponent = (natDigits x.exact.digits).length - count - 1074 →
      b.exponent = (natDigits x.exact.digits).length - count - 1074 → d ∈ [a, b] →
      d.exponent = (natDigits x.exact.digits).length - count - 1074 := by
    intro a b ha hb hd
    simp only [List.mem_cons, List.not_mem_nil, or_false] at hd
    rcases hd with rfl | rfl
    · exact ha
    · exact hb
  unfold Finite.neighbours at h
  dsimp only at h
  rw [if_neg (by omega)] at h
  split at h
  · exact hpair rfl rfl h
  split at h
  · exact hpair rfl rfl h
  cases tie with
  | up => exact hpair rfl rfl h
  | toEven =>
    dsimp only at h
    split at h
    · exact hpair rfl rfl h
    · exact hpair rfl rfl h

/-- Whatever is found for a whole number with no more digits than it has before the point has no places after it. -/
theorem exponent_of_search {tie : Tie} {n more count : Nat} {d : Decimal} (hn : n ≠ 0)
    (h : x.magnitude = n * ticksPerUnit) (hcount : count ≤ (natDigits n).length)
    (hd : x.search tie more count = some d) : 0 ≤ d.exponent := by
  obtain ⟨k, hk, hexact⟩ := exists_exact_eq h
  have hlength : (natDigits x.exact.digits).length = (natDigits n).length + k := by
    rw [hexact]
    exact length_natDigits_mul_ten_pow hn k
  induction more generalizing count with
  | zero => cases hd
  | succ more ih =>
    rw [Finite.search, Option.or_eq_some_iff] at hd
    rcases hd with hd | ⟨hnone, hd⟩
    · have := exponent_of_mem_neighbours (by omega) (List.mem_of_find?_eq_some hd)
      omega
    · -- the number itself would have been found with all of these digits
      have hne : count ≠ (natDigits n).length := by
        rintro rfl
        rw [find?_neighbours_of_whole hn h] at hnone
        cases hnone
      exact ih (by omega) hd

/-- The magnitude of a double whose shortest digits are of a whole number is this number, rounded. -/
theorem magnitude_eq_of_shortest {tie : Tie} (he : 0 ≤ (x.shortest tie).exponent) :
    x.magnitude = ticks (nearestRank ((x.shortest tie).wholeNumber * ticksPerUnit) 1) :=
  congrArg ticks (rank_of_ofDecimal he (ofDecimal_shortest_self x tie)).2

/-- The shortest digits of a double are of a whole number exactly when the double is one. -/
theorem exponent_shortest_nonneg_iff (x : Finite) (tie : Tie) :
    0 ≤ (x.shortest tie).exponent ↔ x.magnitude % ticksPerUnit = 0 := by
  constructor
  · intro he
    obtain ⟨k, hk⟩ := exists_ticksPerUnit_eq
    rw [magnitude_eq_of_shortest he, hk]
    exact Nat.mod_eq_zero_of_dvd (dvd_ticks_nearestRank (Nat.dvd_mul_left _ _))
  · intro hwhole
    by_cases hx : x.rank = 0
    · rw [shortest_of_rank_eq_zero hx]
    have hpositive : x.magnitude ≠ 0 := Nat.ne_of_gt (ticks_pos hx)
    obtain ⟨n, hn⟩ := Nat.dvd_of_mod_eq_zero hwhole
    rw [Nat.mul_comm] at hn
    have hne : n ≠ 0 := by
      rintro rfl
      simp [hn] at hpositive
    obtain ⟨k, hk, hexact⟩ := exists_exact_eq hn
    rw [Finite.shortest, if_neg hx]
    cases hs : x.search tie 17 1 with
    | none =>
      have := exponent_stripZeros hne (by omega : k ≤ 2000) (-k)
      rw [Option.getD_none, hexact]
      omega
    | some d =>
      have hone : 1 ≤ (natDigits n).length := List.length_pos_iff.2 (natDigits_ne_nil n)
      exact Int.le_trans (exponent_of_search hne hn hone hs) (exponent_le_stripZeros _ _)

/-! ## The range of integers -/

/-- A finite number that is not whole. -/
def HasFraction : Double → Prop
  | .finite x => x.magnitude % ticksPerUnit ≠ 0
  | _ => False

/-- 2^63, the number of 64-bit integers from zero up. -/
def integerBound : Nat := 0x8000000000000000

/-- A finite number of at least 2^63. -/
def IsBeyondIntegers : Double → Prop
  | .finite x => integerBound * ticksPerUnit ≤ x.magnitude
  | _ => False

def IsFinite : Double → Prop
  | .finite _ => True
  | _ => False

/-- The whole number that the shortest digits write, if they have no places after the point. -/
def Finite.integer (x : Finite) : Int :=
  if x.negative then -((x.shortest .up).wholeNumber : Int) else (x.shortest .up).wholeNumber

theorem exponent_of_whole (h : ¬HasFraction (.finite x)) : 0 ≤ (x.shortest .up).exponent :=
  (exponent_shortest_nonneg_iff x .up).2 (Decidable.not_not.1 h)

/-- Digits of at least 2^63 are of a double that is at least 2^63. -/
theorem le_magnitude_of_le_wholeNumber {tie : Tie} (he : 0 ≤ (x.shortest tie).exponent)
    (h : integerBound ≤ (x.shortest tie).wholeNumber) : integerBound * ticksPerUnit ≤ x.magnitude := by
  obtain ⟨k, hk⟩ := exists_ticksPerUnit_eq
  have hbound : integerBound = 2 ^ 63 := rfl
  rw [magnitude_eq_of_shortest he, hk, hbound, ← Nat.pow_add]
  refine two_pow_le_ticks_nearestRank ?_
  rw [Nat.pow_add]
  exact Nat.mul_le_mul_right _ h

/-- 2^63 itself is written as 9223372036854776000. -/
theorem lt_wholeNumber_of_bound (h : x.magnitude = integerBound * ticksPerUnit) :
    integerBound < (x.shortest .up).wholeNumber := by
  have hticks : ticks (1086 * binade) = integerBound * ticksPerUnit := by decide +kernel
  have hrank : x.rank = 1086 * binade := by
    rw [← nearestRank_ticks x.rank, ← nearestRank_ticks (1086 * binade), hticks, ← h, Finite.magnitude]
  have hdigits : ∀ negative, integerBound <
      ((Finite.mk negative (1086 * binade) (by decide)).shortest .up).wholeNumber := by decide +kernel
  obtain ⟨negative, rank, hlt⟩ := x
  obtain rfl : rank = 1086 * binade := hrank
  exact hdigits negative

/-- A double that is at least 2^63 has digits of a number beyond 2^63. -/
theorem lt_wholeNumber_of_le_magnitude (he : 0 ≤ (x.shortest .up).exponent)
    (h : integerBound * ticksPerUnit ≤ x.magnitude) :
    integerBound < (x.shortest .up).wholeNumber := by
  by_contra hle
  obtain ⟨k, hk⟩ := exists_ticksPerUnit_eq
  have hbound : integerBound = 2 ^ 63 := rfl
  have hmagnitude : x.magnitude ≤ integerBound * ticksPerUnit := by
    rw [magnitude_eq_of_shortest he, hk, hbound, ← Nat.pow_add]
    refine ticks_nearestRank_le_two_pow ?_
    rw [Nat.pow_add]
    exact Nat.mul_le_mul_right _ (Nat.le_of_not_lt hle)
  exact hle (lt_wholeNumber_of_bound (Nat.le_antisymm hmagnitude h))

/-- Whether the digits of a whole number are of a 64-bit integer. -/
theorem integer_inRange_iff (h : ¬HasFraction (.finite x)) :
    (-0x8000000000000000 ≤ x.integer ∧ x.integer < 0x8000000000000000) ↔ ¬IsBeyondIntegers (.finite x) := by
  have he := exponent_of_whole h
  have hbound : integerBound = 0x8000000000000000 := rfl
  constructor
  · intro hrange hbeyond
    have := lt_wholeNumber_of_le_magnitude he hbeyond
    unfold Finite.integer at hrange
    split at hrange <;> omega
  · intro hinside
    have : ¬integerBound ≤ (x.shortest .up).wholeNumber := fun hle => hinside (le_magnitude_of_le_wholeNumber he hle)
    unfold Finite.integer
    split <;> omega

/-- The integer is the double again, but for the sign of zero. -/
theorem ofInt_integer_iff (h : ¬HasFraction (.finite x)) : ofInt x.integer = .finite x ↔ Double.finite x ≠ zero true := by
  have he := exponent_of_whole h
  have hdouble : ofRatio x.negative (x.shortest .up).wholeNumber 1 = .finite x := by
    rw [ofRatio, ← (rank_of_ofDecimal he (ofDecimal_shortest_self x .up)).2, ofRank, dif_pos x.rank_lt]
  by_cases hn : (x.shortest .up).wholeNumber = 0
  · have hinteger : x.integer = 0 := by simp [Finite.integer, hn]
    have hzero : ∀ negative, ofRatio negative 0 1 = zero negative := by decide +kernel
    rw [hinteger, ← hdouble, hn, hzero]
    cases x.negative <;> decide +kernel
  · have hsign : decide (x.integer < 0) = x.negative ∧ x.integer.natAbs = (x.shortest .up).wholeNumber := by
      unfold Finite.integer
      cases x.negative with
      | true => simp; omega
      | false => simp
    have hne : Double.finite x ≠ zero true := by
      intro hzero
      have hrank : x.rank = 0 := congrArg Finite.rank (Double.finite.inj hzero)
      exact hn (by rw [shortest_of_rank_eq_zero hrank]; rfl)
    rw [ofInt, hsign.1, hsign.2, hdouble]
    exact iff_of_true rfl hne

theorem value_emod_eq_zero_iff (x : Finite) : x.value % ticksPerUnit = 0 ↔ x.magnitude % ticksPerUnit = 0 := by
  rw [← Int.dvd_iff_emod_eq_zero, ← Nat.dvd_iff_mod_eq_zero, Finite.value]
  split
  · rw [Int.dvd_neg, Int.natCast_dvd_natCast]
  · rw [Int.natCast_dvd_natCast]

end Double

end TypedStorage
