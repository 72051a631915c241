/-
The double that an integer is rounded to is as near to it as any (`ofInt_nearest`), so it is the integer itself if any
double is. Which integers these are shows in their bits (`exists_value_eq_iff`).

The numbers that a number of ticks is rounded to are multiples of a power of two, and not all doubles are. But one that is
not lies below the power of two that the number starts with, and that is such a multiple.
-/
import TypedStorage.Proofs.Double.Whole

namespace TypedStorage.Double

/-! ## Magnitudes -/

/-- Rounding finds a multiple that is as near as any. -/
theorem roundHalfEven_nearest (num : Nat) {den : Nat} (hd : 0 < den) (k : Nat) :
    ((num : Int) - (roundHalfEven num den * den : Nat)).natAbs ≤ ((num : Int) - (k * den : Nat)).natAbs := by
  have hnum := Nat.div_add_mod' num den
  have hrest := Nat.mod_lt num hd
  -- a multiple is no greater than the one below the number, or no less than the one above it
  have hside : k * den ≤ num / den * den ∨ num / den * den + den ≤ k * den := by
    rcases Nat.lt_or_ge (num / den) k with hk | hk
    · right
      have := Nat.mul_le_mul_right den hk
      rwa [Nat.succ_mul] at this
    · exact .inl (Nat.mul_le_mul_right den hk)
  have hround : (roundHalfEven num den * den = num / den * den ∧ 2 * (num % den) ≤ den) ∨
      (roundHalfEven num den * den = num / den * den + den ∧ den ≤ 2 * (num % den)) := by
    unfold roundHalfEven
    dsimp only
    split
    · exact .inl ⟨rfl, by omega⟩
    split
    · exact .inr ⟨Nat.succ_mul _ _, by omega⟩
    split
    · exact .inl ⟨rfl, by omega⟩
    · exact .inr ⟨Nat.succ_mul _ _, by omega⟩
  omega

/-- A magnitude is a multiple of a power of two, or is too small for one with 53 bits. -/
theorem dvd_ticks_or_lt (rank k : Nat) : 2 ^ k ∣ ticks rank ∨ ticks rank < 2 ^ (52 + k) := by
  have hb : binade = 2 ^ 52 := rfl
  have hpow : ∀ n, Nat.pow 2 n = 2 ^ n := fun _ => rfl
  unfold ticks
  split
  · next h =>
    right
    exact Nat.lt_of_lt_of_le (hb ▸ h) (Nat.pow_le_pow_right (by decide) (by omega))
  · rw [hpow]
    rcases Nat.lt_or_ge (rank / binade - 1) k with hk | hk
    · right
      have hm := Nat.mod_lt rank (by decide : 0 < binade)
      have hs : binade + rank % binade < 2 ^ 53 := by omega
      calc (binade + rank % binade) * 2 ^ (rank / binade - 1)
          < 2 ^ 53 * 2 ^ (rank / binade - 1) := Nat.mul_lt_mul_of_pos_right hs (Nat.two_pow_pos _)
        _ ≤ 2 ^ (52 + k) := by
            rw [← Nat.pow_add]
            exact Nat.pow_le_pow_right (by decide) (by omega)
    · exact .inl ((Nat.pow_dvd_pow 2 hk).mul_left _)

theorem ticks_nearestRank_nearest (m rank : Nat) :
    ((m : Int) - ticks (nearestRank m 1)).natAbs ≤ ((m : Int) - ticks rank).natAbs := by
  by_cases hd : 2 ^ (m.log2 - 52) ∣ m
  · simp [ticks_nearestRank_of_dvd hd]
  have hk : m.log2 - 52 ≠ 0 := by
    intro h0
    simp [h0] at hd
  have hm : m ≠ 0 := by
    rintro rfl
    simp at hk
  have hpos := Nat.two_pow_pos (m.log2 - 52)
  rw [ticks_nearestRank]
  rcases dvd_ticks_or_lt rank (m.log2 - 52) with ⟨c, hc⟩ | hlt
  · rw [hc, Nat.mul_comm _ c]
    exact roundHalfEven_nearest m hpos c
  · have hle : 2 ^ 52 * 2 ^ (m.log2 - 52) ≤ m := by
      rw [← Nat.pow_add, Nat.add_sub_cancel' (by omega)]
      exact Nat.log2_self_le hm
    have hnearest := roundHalfEven_nearest m hpos (2 ^ 52)
    rw [Nat.pow_add] at hlt
    omega

/-- A number of ticks is a magnitude if it has no more than 53 bits before its last zeros, and only then. -/
theorem exists_ticks_eq_iff {m : Nat} : (∃ rank, ticks rank = m) ↔ 2 ^ (m.log2 - 52) ∣ m := by
  constructor
  · rintro ⟨rank, rfl⟩
    have hround := ticks_nearestRank (ticks rank)
    rw [nearestRank_ticks] at hround
    exact Dvd.intro_left _ hround.symm
  · intro hd
    exact ⟨_, ticks_nearestRank_of_dvd hd⟩

/-! ## Integers -/

/-- No more than 53 bits stand between the first one and the last one. -/
def IsShort (i : Int) : Prop := 2 ^ (i.natAbs.log2 - 52) ∣ i.natAbs

instance (i : Int) : Decidable (IsShort i) := inferInstanceAs (Decidable (_ ∣ _))

/-- Zeros at the end make no difference. -/
theorem isShort_iff (i : Int) :
    IsShort i ↔ 2 ^ ((i.natAbs * ticksPerUnit).log2 - 52) ∣ i.natAbs * ticksPerUnit := by
  obtain ⟨k, hk⟩ := exists_ticksPerUnit_eq
  unfold IsShort
  generalize i.natAbs = n
  rw [hk]
  by_cases h0 : n = 0
  · simp [h0]
  rw [log2_mul_two_pow h0]
  rcases Nat.lt_or_ge n.log2 52 with hlog | hlog
  · have hone : n.log2 - 52 = 0 := by omega
    have hsmall : 2 ^ (n.log2 + k - 52) ∣ 2 ^ k := Nat.pow_dvd_pow 2 (by omega)
    simp [hone, hsmall.mul_left]
  · rw [(by omega : n.log2 + k - 52 = n.log2 - 52 + k), Nat.pow_add]
    exact (Nat.mul_dvd_mul_iff_right (Nat.two_pow_pos k)).symm

/-- An integer in ticks, by its sign. -/
theorem mul_ticksPerUnit (i : Int) : i * ticksPerUnit =
    if i < 0 then -((i.natAbs * ticksPerUnit : Nat) : Int) else (i.natAbs * ticksPerUnit : Nat) := by
  rw [Int.natCast_mul]
  split
  · rw [← Int.neg_mul, Int.ofNat_natAbs_of_nonpos (by omega), Int.neg_neg]
  · rw [Int.natAbs_of_nonneg (by omega)]

variable (i : Int64)

/-- The double that a 64-bit integer is rounded to is finite, and has its sign. -/
theorem exists_ofInt_eq : ∃ x : Finite, ofInt i.toInt = .finite x ∧ x.value =
    if i.toInt < 0 then -(ticks (nearestRank (i.toInt.natAbs * ticksPerUnit) 1) : Int)
    else ticks (nearestRank (i.toInt.natAbs * ticksPerUnit) 1) := by
  have hlt : nearestRank (i.toInt.natAbs * ticksPerUnit) 1 < rankCount := by
    obtain ⟨k, hk⟩ := exists_ticksPerUnit_eq
    have hpower : k = 1074 := by
      rw [← @Nat.log2_two_pow k, ← hk]
      decide +kernel
    have hlog : (i.toInt.natAbs * ticksPerUnit).log2 - 52 ≤ 1085 := by
      by_cases h0 : i.toInt.natAbs = 0
      · simp [h0]
      · have hlo := i.le_toInt
        have hhi := i.toInt_lt
        have h64 := (Nat.log2_lt h0 (k := 64)).2 (by omega)
        rw [hk, log2_mul_two_pow h0]
        omega
    have hround := roundHalfEven_le_binade (i.toInt.natAbs * ticksPerUnit)
    have hcount : rankCount = 2047 * binade := rfl
    have hpos : 0 < binade := by decide
    have hmul := Nat.mul_le_mul_right binade hlog
    rw [nearestRank_eq, hcount]
    omega
  refine ⟨⟨decide (i.toInt < 0), _, hlt⟩, dif_pos hlt, ?_⟩
  simp [Finite.value, Finite.magnitude]

/-- No finite number is nearer to an integer than the one that it is read as. -/
theorem ofInt_nearest : ∃ x : Finite, ofInt i.toInt = .finite x ∧ ∀ y : Finite,
    (i.toInt * ticksPerUnit - x.value).natAbs ≤ (i.toInt * ticksPerUnit - y.value).natAbs := by
  obtain ⟨x, hx, hvalue⟩ := exists_ofInt_eq i
  refine ⟨x, hx, fun y => ?_⟩
  have hy := ticks_nearestRank_nearest (i.toInt.natAbs * ticksPerUnit) y.rank
  -- a number of the other sign is no nearer than zero
  have hzero := ticks_nearestRank_nearest (i.toInt.natAbs * ticksPerUnit) 0
  have h0 : ticks 0 = 0 := rfl
  rw [hvalue, mul_ticksPerUnit, Finite.value, Finite.magnitude]
  generalize i.toInt.natAbs * ticksPerUnit = m at hy hzero
  cases y.negative <;> simp only [if_true, if_false, Bool.false_eq_true] <;> split <;> omega

/-- Some finite number is the integer if the integer has few enough bits, and only then. -/
theorem exists_value_eq_iff : (∃ y : Finite, y.value = i.toInt * ticksPerUnit) ↔ IsShort i.toInt := by
  rw [isShort_iff, ← exists_ticks_eq_iff]
  constructor
  · rintro ⟨y, hy⟩
    have hmagnitude := congrArg Int.natAbs hy
    rw [Int.natAbs_mul, Int.natAbs_natCast] at hmagnitude
    refine ⟨y.rank, ?_⟩
    rw [← hmagnitude, Finite.value, Finite.magnitude]
    split <;> simp
  · rintro ⟨rank, hticks⟩
    obtain ⟨x, -, hvalue⟩ := exists_ofInt_eq i
    rw [← hticks, nearestRank_ticks, hticks] at hvalue
    exact ⟨x, hvalue.trans (mul_ticksPerUnit _).symm⟩

/-- What an integer is read as is the integer if it has few enough bits, and only then. -/
theorem value_ofInt_eq_iff {x : Finite} (hx : ofInt i.toInt = .finite x) :
    x.value = i.toInt * ticksPerUnit ↔ IsShort i.toInt := by
  rw [← exists_value_eq_iff]
  constructor
  · intro h
    exact ⟨x, h⟩
  · rintro ⟨y, hy⟩
    obtain ⟨x', hx', hnearest⟩ := ofInt_nearest i
    cases hx.symm.trans hx'
    have := hnearest y
    omega

end TypedStorage.Double
