/-
The text of a double by itself is read back as that double, whichever it is (`ofText?_text`).

A double that is no zero is written with digits that were found to read back, or else with all of its digits. So
what there is to show is that all digits read back (`ofDecimal_exact`), and that taking trailing zeros off the
digits and writing them out again does not change what is read (`ofDecimal_shift`).
-/
import TypedStorage.Double.Text
import TypedStorage.Proofs.Text.Digits
import Mathlib.Tactic.Ring

namespace TypedStorage.Double

open Text

/-! ## The nearest double -/

theorem roundHalfEven_scale (num den : Nat) {c : Nat} (hc : 0 < c) :
    roundHalfEven (num * c) (den * c) = roundHalfEven num den := by
  unfold roundHalfEven
  rw [Nat.mul_div_mul_right _ _ hc, Nat.mul_mod_mul_right, ← Nat.mul_assoc]
  simp only [Nat.mul_lt_mul_right hc]

/-- A fraction and its multiples have the same nearest double. -/
theorem nearestRank_scale (num den : Nat) {c : Nat} (hc : 0 < c) :
    nearestRank (num * c) (den * c) = nearestRank num den := by
  unfold nearestRank
  rw [Nat.mul_div_mul_right _ _ hc]
  dsimp only
  rw [Nat.mul_right_comm, roundHalfEven_scale _ _ hc]

theorem roundHalfEven_mul (m : Nat) {d : Nat} (hd : 0 < d) : roundHalfEven (m * d) d = m := by
  unfold roundHalfEven
  rw [Nat.mul_div_cancel _ hd, Nat.mul_mod_left]
  simp [hd]

theorem log2_mul_two_pow {m : Nat} (hm : m ≠ 0) (k : Nat) : (m * 2 ^ k).log2 = m.log2 + k := by
  have h1 := Nat.log2_self_le hm
  have h2 := Nat.lt_log2_self (n := m)
  have hk := Nat.two_pow_pos k
  rw [Nat.log2_eq_iff (Nat.mul_ne_zero hm (Nat.ne_of_gt hk))]
  constructor
  · rw [Nat.pow_add]
    exact Nat.mul_le_mul_right _ h1
  · rw [Nat.add_right_comm, Nat.pow_add]
    exact Nat.mul_lt_mul_of_pos_right h2 hk

/-- The double nearest to the value of a double is that double. -/
theorem nearestRank_ticks (rank : Nat) : nearestRank (ticks rank) 1 = rank := by
  unfold nearestRank ticks
  split
  · next h =>
    have hlog : rank.log2 - 52 = 0 := by
      by_cases h0 : rank = 0
      · simp [h0]
      · have := (Nat.log2_lt h0 (k := 52)).2 h
        omega
    have hround := roundHalfEven_mul rank (d := 1) (by decide)
    rw [Nat.mul_one] at hround
    simpa [hlog] using hround
  · next h =>
    have hb : binade = 2 ^ 52 := rfl
    have hpos : 0 < binade := by decide
    have hlt := Nat.mod_lt rank hpos
    have hlog : (binade + rank % binade).log2 = 52 := by
      rw [Nat.log2_eq_iff (by omega)]
      omega
    have hdm := Nat.div_add_mod rank binade
    have hone : 1 ≤ rank / binade := (Nat.one_le_div_iff hpos).2 (by omega)
    have hpow : ∀ a b, Nat.pow a b = a ^ b := fun _ _ => rfl
    simp only [Nat.div_one, hpow, log2_mul_two_pow (by omega : binade + rank % binade ≠ 0), hlog, Nat.add_sub_cancel_left,
      Nat.one_mul, roundHalfEven_mul _ (Nat.two_pow_pos _)]
    obtain ⟨q, hq⟩ := Nat.exists_eq_add_of_le' hone
    rw [hq, Nat.mul_succ] at hdm
    rw [hq, Nat.add_sub_cancel, Nat.mul_comm]
    omega

theorem ofRatio_scale (negative : Bool) (num den : Nat) {c : Nat} (hc : 0 < c) :
    ofRatio negative (num * c) (den * c) = ofRatio negative num den := by
  unfold ofRatio
  rw [Nat.mul_right_comm, nearestRank_scale _ _ hc]

/-! ## Decimal numbers of one value -/

theorem length_natDigits_mul_ten {n : Nat} (h : n ≠ 0) : (natDigits (n * 10)).length = (natDigits n).length + 1 := by
  rw [natDigits_of_le (by omega)]
  simp

/-- A zero moves from the digits to the exponent without changing what is read. -/
theorem ofDecimal_shift (negative : Bool) (n : Nat) (e : Int) :
    ofDecimal negative ⟨n * 10, e⟩ = ofDecimal negative ⟨n, e + 1⟩ := by
  by_cases h0 : n = 0
  · simp [ofDecimal, h0]
  have hsize : ((natDigits (n * 10)).length : Int) + e = (natDigits n).length + (e + 1) := by
    rw [length_natDigits_mul_ten h0]
    omega
  have hpow : ∀ a b, Nat.pow a b = a ^ b := fun _ _ => rfl
  simp only [ofDecimal, hsize, h0, if_false, Nat.mul_eq_zero, or_self, OfNat.ofNat_ne_zero, hpow]
  split
  · rfl
  split
  · rfl
  rcases Int.lt_trichotomy e (-1) with he | rfl | he
  · have h1 : ¬0 ≤ e := by omega
    have h2 : ¬0 ≤ e + 1 := by omega
    have h3 : (-e).toNat = (-(e + 1)).toNat + 1 := by omega
    rw [if_neg h1, if_neg h2, h3, Nat.pow_succ, ofRatio_scale _ _ _ (by decide)]
  · have := ofRatio_scale negative n 1 (c := 10) (by decide)
    simpa using this
  · have h1 : 0 ≤ e := by omega
    have h2 : 0 ≤ e + 1 := by omega
    have h3 : (e + 1).toNat = e.toNat + 1 := by omega
    rw [if_pos h1, if_pos h2, h3, Nat.pow_succ, Nat.mul_assoc, Nat.mul_comm 10]

theorem ofDecimal_shifts (negative : Bool) (n k : Nat) (e : Int) :
    ofDecimal negative ⟨n * 10 ^ k, e⟩ = ofDecimal negative ⟨n, e + k⟩ := by
  induction k generalizing e with
  | zero => simp
  | succ k ih =>
    rw [Nat.pow_succ, ← Nat.mul_assoc, ofDecimal_shift, ih]
    congr 2
    omega

theorem ofDecimal_stripZeros (negative : Bool) (fuel : Nat) (d : Decimal) :
    ofDecimal negative (stripZeros fuel d) = ofDecimal negative d := by
  induction fuel generalizing d with
  | zero => rfl
  | succ fuel ih =>
    unfold stripZeros
    split
    · next h =>
      have hd : d.digits / 10 * 10 = d.digits := Nat.div_mul_cancel (Nat.dvd_of_mod_eq_zero h.1)
      rw [ih, ← ofDecimal_shift, hd]
    · rfl

/-! ## The digits of a double -/

theorem ticks_pos {rank : Nat} (h : rank ≠ 0) : 0 < ticks rank := by
  unfold ticks
  split
  · omega
  · exact Nat.mul_pos (by unfold binade; omega) (Nat.two_pow_pos _)

theorem le_mul_two_pow (m k : Nat) : m ≤ m * 2 ^ k := Nat.le_mul_of_pos_right _ (Nat.two_pow_pos k)

theorem ticks_lt {rank n : Nat} (h : rank < (n + 2) * binade) : ticks rank < 2 ^ 53 * 2 ^ n := by
  unfold ticks
  have hb : binade = 2 ^ 52 := rfl
  split
  · next h =>
    have h53 : binade ≤ 2 ^ 53 := by decide
    exact Nat.lt_of_lt_of_le h (Nat.le_trans h53 (le_mul_two_pow (2 ^ 53) n))
  · have hm := Nat.mod_lt rank (by decide : 0 < binade)
    have hq : rank / binade - 1 ≤ n := by
      have : rank / binade < n + 2 := Nat.div_lt_of_lt_mul (by rw [Nat.mul_comm]; exact h)
      omega
    have hsum : binade + rank % binade < 2 ^ 53 := by
      rw [hb] at hm ⊢
      omega
    calc (binade + rank % binade) * 2 ^ (rank / binade - 1)
        ≤ (binade + rank % binade) * 2 ^ n := Nat.mul_le_mul_left _ (Nat.pow_le_pow_right (by decide) hq)
      _ < 2 ^ 53 * 2 ^ n := Nat.mul_lt_mul_of_pos_right hsum (Nat.two_pow_pos n)

theorem lt_length_natDigits {n k : Nat} (hk : 0 < k) (h : 10 ^ k ≤ n) : k < (natDigits n).length := by
  by_contra hle
  have := (Nat.length_toDigits_le_iff (b := 10) (by decide) hk).1 (Nat.le_of_not_lt hle)
  omega

theorem length_natDigits_le {n k : Nat} (hk : 0 < k) (h : n < 10 ^ k) : (natDigits n).length ≤ k :=
  (Nat.length_toDigits_le_iff (by decide) hk).2 h

/-- All digits of a double are within the range where decimal numbers are looked at closely. -/
theorem length_exact {x : Finite} (h : x.rank ≠ 0) :
    750 < (natDigits x.exact.digits).length ∧ (natDigits x.exact.digits).length ≤ 1384 := by
  have h1 : 10 ^ 750 ≤ Nat.pow 5 1074 := by decide +kernel
  have h2 : 2 ^ 53 * 2 ^ 2045 * Nat.pow 5 1074 ≤ 10 ^ 1384 := by decide +kernel
  have hlo : Nat.pow 5 1074 ≤ x.exact.digits := Nat.le_mul_of_pos_left _ (ticks_pos h)
  have hhi : x.exact.digits < 2 ^ 53 * 2 ^ 2045 * Nat.pow 5 1074 :=
    Nat.mul_lt_mul_of_pos_right (ticks_lt (n := 2045) x.rank_lt) (by decide +kernel)
  exact ⟨lt_length_natDigits (by decide) (Nat.le_trans h1 hlo), length_natDigits_le (by decide) (Nat.lt_of_lt_of_le hhi h2)⟩

/-- A fraction that is the value of a double is rounded to it. -/
theorem ofRatio_of_eq {x : Finite} {num den : Nat} (hd : 0 < den) (h : num * ticksPerUnit = ticks x.rank * den) :
    ofRatio x.negative num den = .finite x := by
  have hrank := nearestRank_scale (ticks x.rank) 1 hd
  rw [Nat.one_mul, nearestRank_ticks] at hrank
  rw [ofRatio, h, hrank, ofRank, dif_pos x.rank_lt]

theorem exact_digits_mul (x : Finite) (n : Nat) : x.exact.digits * n = ticks x.rank * (Nat.pow 5 1074 * n) :=
  Nat.mul_assoc _ _ _

theorem ofDecimal_exact {x : Finite} (h : x.rank ≠ 0) : ofDecimal x.negative x.exact = .finite x := by
  obtain ⟨hlo, hhi⟩ := length_exact h
  have h0 : x.exact.digits ≠ 0 := Nat.ne_of_gt (Nat.mul_pos (ticks_pos h) (by decide +kernel))
  have hten : Nat.pow 5 1074 * ticksPerUnit = Nat.pow 10 1074 := by decide +kernel
  have hvalue : x.exact.digits * ticksPerUnit = ticks x.rank * Nat.pow 10 1074 := by
    rw [exact_digits_mul, hten]
  have he : x.exact.exponent = -1074 := rfl
  have hn : (-x.exact.exponent).toNat = 1074 := rfl
  unfold ofDecimal
  rw [if_neg h0, if_neg (by rw [he]; omega), if_neg (by rw [he]; omega), if_neg (by rw [he]; decide), hn]
  exact ofRatio_of_eq (by decide +kernel) hvalue

theorem readsBack_of_search {x : Finite} {tie : Tie} {more count : Nat} {d : Decimal}
    (h : x.search tie more count = some d) : ofDecimal x.negative d = .finite x := by
  induction more generalizing count with
  | zero => simp [Finite.search] at h
  | succ more ih =>
    rw [Finite.search, Option.or_eq_some_iff] at h
    rcases h with h | ⟨-, h⟩
    · simpa [Finite.readsBack] using List.find?_some h
    · exact ih h

/-- The shortest digits read back. -/
theorem ofDecimal_shortest {x : Finite} (tie : Tie) (h : x.rank ≠ 0) :
    ofDecimal x.negative (x.shortest tie) = .finite x := by
  rw [Finite.shortest, if_neg h, ofDecimal_stripZeros]
  cases hs : x.search tie 17 1 with
  | none => exact ofDecimal_exact h
  | some d => exact readsBack_of_search hs

theorem shortest_of_rank_eq_zero {x : Finite} {tie : Tie} (h : x.rank = 0) : x.shortest tie = ⟨0, 0⟩ := if_pos h

/-- The shortest digits of a double, zero or not, are read as the double. -/
theorem ofDecimal_shortest_self (x : Finite) (tie : Tie) : ofDecimal x.negative (x.shortest tie) = .finite x := by
  by_cases h : x.rank = 0
  · obtain ⟨negative, rank, hlt⟩ := x
    obtain rfl : rank = 0 := h
    rfl
  · exact ofDecimal_shortest tie h

theorem textChars_finite (x : Finite) : textChars (.finite x) = signed x.negative (plainDigits (x.shortest .up)) := by
  rw [textChars]
  split
  · next h => rw [shortest_of_rank_eq_zero h]
  · rfl

/-! ## Reading -/

/-- A text that starts with a digit is no name of infinity or NaN. -/
theorem readUnsigned?_digit (negative : Bool) {c : Char} (hc : c.isDigit) (cs : List Char) :
    readUnsigned? negative (c :: cs) = (readDecimal? (c :: cs)).map (ofDecimal negative) := by
  have hlower : c.toLower = c := by
    simp only [Char.isDigit, Bool.and_eq_true, decide_eq_true_eq] at hc
    unfold Char.toLower
    rw [dif_neg]
    intro h
    have := Nat.le_trans h.1 hc.2
    simp at this
  have hne : ∀ name : String, name.toList.head?.all (fun d => !d.isDigit) →
      String.ofList (c :: cs.map Char.toLower) ≠ name := by
    intro name hname he
    rw [← he, String.toList_ofList] at hname
    simp [hc] at hname
  simp only [readUnsigned?, List.map_cons, hlower]
  rw [if_neg (not_or.2 ⟨hne _ (by decide), hne _ (by decide)⟩), if_neg (hne _ (by decide))]

/-- Digits without a point are the number that they stand for. -/
theorem readDecimal?_digits {word : List Char} (hne : word ≠ []) (hd : ∀ c ∈ word, c.isDigit) :
    readDecimal? word = some ⟨digitsValue word, 0⟩ := by
  have hs : spanDigits word = (word, []) := by simpa using spanDigits_word hd .nil
  simp [readDecimal?, hs, hne, readExponent?]

/-- Digits on both sides of a point are all the digits, with an exponent for those after the point. -/
theorem readDecimal?_point {whole fraction : List Char} (hne : whole ≠ []) (hw : ∀ c ∈ whole, c.isDigit)
    (hf : ∀ c ∈ fraction, c.isDigit) :
    readDecimal? (whole ++ '.' :: fraction) = some ⟨digitsValue (whole ++ fraction), -fraction.length⟩ := by
  have hs : spanDigits (whole ++ '.' :: fraction) = (whole, '.' :: fraction) := spanDigits_word hw (.cons (by decide))
  have ht : spanDigits fraction = (fraction, []) := by simpa using spanDigits_word hf .nil
  simp [readDecimal?, hs, ht, hne, readExponent?]

/-- A decimal number with no negative exponent is written with all its digits and zeros. -/
theorem plainDigits_of_nonneg {d : Decimal} (h : 0 ≤ d.exponent) : ∃ word, word ≠ [] ∧ (∀ c ∈ word, c.isDigit) ∧
    plainDigits d = word ∧ digitsValue word = d.digits * 10 ^ d.exponent.toNat := by
  refine ⟨_, by simp [natDigits_ne_nil], ?_, if_pos h, ?_⟩
  · intro c hc
    rcases List.mem_append.1 hc with hc | hc
    · exact isDigit_of_mem_natDigits hc
    · exact isDigit_of_mem_replicate hc
  · have := digitsValue_natDigits d.digits
    unfold digitsValue at this ⊢
    rw [Nat.ofDigitChars_append, this, Nat.ofDigitChars_replicate_zero, Nat.mul_comm]

/-- One with a negative exponent is written with a point in front of as many digits as the exponent says. -/
theorem plainDigits_of_neg {d : Decimal} (h : d.exponent < 0) : ∃ whole fraction, whole ≠ [] ∧
    (∀ c ∈ whole, c.isDigit) ∧ (∀ c ∈ fraction, c.isDigit) ∧ plainDigits d = whole ++ '.' :: fraction ∧
    digitsValue (whole ++ fraction) = d.digits ∧ -(fraction.length : Int) = d.exponent := by
  have hword : ∀ c ∈ natDigits d.digits, c.isDigit := fun c hc => isDigit_of_mem_natDigits hc
  unfold plainDigits
  dsimp only
  rw [if_neg (Int.not_le.2 h)]
  split
  · next hlt =>
    refine ⟨_, _, ?_, fun c hc => hword c (List.mem_of_mem_take hc), fun c hc => hword c (List.mem_of_mem_drop hc),
      rfl, ?_, ?_⟩
    · rw [Ne, List.take_eq_nil_iff]
      simp only [natDigits_ne_nil, or_false]
      omega
    · rw [List.take_append_drop, digitsValue_natDigits]
    · rw [List.length_drop]
      omega
  · next hge =>
    refine ⟨['0'], List.replicate ((-d.exponent).toNat - (natDigits d.digits).length) '0' ++ natDigits d.digits, by simp,
      by simp, fun c hc => ?_, rfl, ?_, ?_⟩
    · rcases List.mem_append.1 hc with hc | hc
      · exact isDigit_of_mem_replicate hc
      · exact hword c hc
    · have := digitsValue_natDigits d.digits
      unfold digitsValue at this ⊢
      rw [Nat.ofDigitChars_append, Nat.ofDigitChars_append, Nat.ofDigitChars_replicate_zero]
      simpa [Nat.ofDigitChars_cons] using this
    · rw [List.length_append, List.length_replicate]
      omega

/-- A decimal number written out without an exponent is read as one of the same value. -/
theorem readDecimal?_plainDigits (negative : Bool) (d : Decimal) :
    (readDecimal? (plainDigits d)).map (ofDecimal negative) = some (ofDecimal negative d) := by
  rcases Int.lt_or_le d.exponent 0 with he | he
  · obtain ⟨whole, fraction, hne, hwhole, hfraction, hplain, hvalue, hplaces⟩ := plainDigits_of_neg he
    rw [hplain, readDecimal?_point hne hwhole hfraction, hvalue, hplaces, Option.map_some]
  · obtain ⟨word, hne, hword, hplain, hvalue⟩ := plainDigits_of_nonneg he
    rw [hplain, readDecimal?_digits hne hword, hvalue, Option.map_some, ofDecimal_shifts, Int.zero_add,
      Int.toNat_of_nonneg he]

theorem plainDigits_eq_cons (d : Decimal) : ∃ c cs, c.isDigit ∧ plainDigits d = c :: cs := by
  have hcons : ∀ {word rest : List Char}, word ≠ [] → (∀ c ∈ word, c.isDigit) →
      ∃ c cs, c.isDigit ∧ word ++ rest = c :: cs := by
    intro word rest hne hword
    obtain ⟨c, cs, rfl⟩ := List.exists_cons_of_ne_nil hne
    exact ⟨c, cs ++ rest, hword c List.mem_cons_self, rfl⟩
  rcases Int.lt_or_le d.exponent 0 with he | he
  · obtain ⟨whole, fraction, hne, hwhole, -, hplain, -⟩ := plainDigits_of_neg he
    rw [hplain]
    exact hcons hne hwhole
  · obtain ⟨word, hne, hword, hplain, -⟩ := plainDigits_of_nonneg he
    rw [hplain, ← List.append_nil word]
    exact hcons hne hword

/-- What starts with a digit is read as its digits say, with a sign or without. -/
theorem readChars?_signed (negative : Bool) {c : Char} (hc : c.isDigit) (cs : List Char) :
    readChars? (signed negative (c :: cs)) = (readDecimal? (c :: cs)).map (ofDecimal negative) := by
  have hu := readUnsigned?_digit negative hc cs
  cases negative with
  | true => exact hu
  | false =>
    have hm : c ≠ '-' := by rintro rfl; simp at hc
    have hp : c ≠ '+' := by rintro rfl; simp at hc
    simpa [signed, readChars?, hm, hp] using hu

theorem readChars?_plainDigits (negative : Bool) (d : Decimal) :
    readChars? (signed negative (plainDigits d)) = some (ofDecimal negative d) := by
  obtain ⟨c, cs, hc, hp⟩ := plainDigits_eq_cons d
  have hread := readDecimal?_plainDigits negative d
  rw [hp] at hread ⊢
  rw [readChars?_signed negative hc, hread]

/-- **The text of a double is read back as that double.** -/
theorem ofText?_text (x : Double) : ofText? x.text = some x := by
  rw [ofText?, text, String.toList_ofList]
  cases x with
  | nan => decide +kernel
  | infinite negative => cases negative <;> decide +kernel
  | finite x => rw [textChars_finite, readChars?_plainDigits, ofDecimal_shortest_self]

end TypedStorage.Double
