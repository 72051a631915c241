/-
The order of texts. Text is ordered by its characters, and this is the order of its bytes (`utf8Bytes_lt_iff`): of two
characters the greater has no fewer bytes, and the first byte that differs is the greater one. Words of digits of one
width are ordered as the numbers that they stand for (`fixedDigits_lt_iff`).
-/
import TypedStorage.Proofs.Text.Digits
import Mathlib.Tactic.SplitIfs

namespace TypedStorage.Text

/-! ## Characters and bytes -/

/-- Of two characters the smaller has the smaller bytes, which differ at a place that both have. -/
theorem utf8EncodeChar_append_lt {c d : Char} (h : c < d) (r r' : List UInt8) :
    String.utf8EncodeChar c ++ r < String.utf8EncodeChar d ++ r' := by
  have hlt : c.val.toNat < d.val.toNat := h
  have hmax : d.val.toNat < 0x110000 := by
    rcases d.valid with hd | hd
    · exact Nat.lt_trans hd (by decide)
    · exact hd.2
  -- all shifts as shifts by one group of six bits, so that the groups are digits of one number
  have hgroups : ∀ n : Nat, n / 4096 = n / 64 / 64 ∧ n / 262144 = n / 64 / 64 / 64 := by omega
  unfold String.utf8EncodeChar
  simp only [hgroups]
  generalize c.val.toNat = m, d.val.toNat = n at hlt hmax
  split_ifs <;>
    simp only [List.cons_append, List.nil_append, List.cons_lt_cons_iff, UInt8.lt_iff_toNat_lt, ← UInt8.toNat_inj,
      UInt8.toNat_ofNat'] <;> omega

theorem utf8Bytes_eq_flatMap (s : String) : utf8Bytes s = s.toList.flatMap String.utf8EncodeChar := by
  have h := String.toByteArray_ofList (l := s.toList)
  rw [String.ofList_toList] at h
  rw [utf8Bytes, String.toUTF8, h]
  simp [List.utf8Encode]

theorem utf8Bytes_lt {s t : String} (h : s < t) : utf8Bytes s < utf8Bytes t := by
  have h := String.lt_iff.1 h
  rw [utf8Bytes_eq_flatMap, utf8Bytes_eq_flatMap]
  generalize s.toList = cs, t.toList = ds at h
  induction cs generalizing ds with
  | nil =>
    cases ds with
    | nil => exact absurd h (List.lt_irrefl [])
    | cons d ds =>
      obtain ⟨b, bs, hb⟩ := List.exists_cons_of_ne_nil (String.utf8EncodeChar_ne_nil (c := d))
      rw [List.flatMap_nil, List.flatMap_cons, hb]
      exact List.nil_lt_cons _ _
  | cons c cs ih =>
    cases ds with
    | nil => exact absurd h (List.not_lt_nil _)
    | cons d ds =>
      rw [List.flatMap_cons, List.flatMap_cons]
      rcases List.cons_lt_cons_iff.1 h with h | ⟨rfl, hrest⟩
      · exact utf8EncodeChar_append_lt h _ _
      · exact List.append_left_lt (ih _ hrest)

/-- **The order of texts is the order of their bytes.** -/
theorem utf8Bytes_lt_iff {s t : String} : utf8Bytes s < utf8Bytes t ↔ s < t := by
  refine ⟨fun h => Decidable.byContradiction fun hn => ?_, utf8Bytes_lt⟩
  have hle : t ≤ s := hn
  by_cases ht : t < s
  · exact List.lt_asymm h (utf8Bytes_lt ht)
  · have he : s = t := String.le_antisymm ht hle
    exact List.lt_irrefl _ (he ▸ h)

/-! ## Words of digits -/

/-- Texts that start with words of one length are ordered by these first. -/
theorem append_lt_append_iff {xs ys : List Char} (h : xs.length = ys.length) (r r' : List Char) :
    xs ++ r < ys ++ r' ↔ xs < ys ∨ xs = ys ∧ r < r' := by
  induction xs generalizing ys with
  | nil =>
    obtain rfl := List.eq_nil_of_length_eq_zero h.symm
    simp
  | cons x xs ih =>
    cases ys with
    | nil => cases h
    | cons y ys =>
      rw [List.cons_append, List.cons_append, List.cons_lt_cons_iff, List.cons_lt_cons_iff, ih (by simpa using h),
        List.cons.injEq]
      grind

theorem digitChar_lt_iff {m n : Nat} (hm : m < 10) (hn : n < 10) : m.digitChar < n.digitChar ↔ m < n := by
  have all : ∀ i j : Fin 10, i.val.digitChar < j.val.digitChar ↔ i.val < j.val := by decide
  exact all ⟨m, hm⟩ ⟨n, hn⟩

variable {width m n : Nat}

theorem fixedDigits_inj (hm : m < 10 ^ width) (hn : n < 10 ^ width) :
    fixedDigits width m = fixedDigits width n ↔ m = n := by
  refine ⟨fun h => ?_, fun h => h ▸ rfl⟩
  rw [← digitsValue_fixedDigits hm, h, digitsValue_fixedDigits hn]

/-- Words of one width are ordered as the numbers that they stand for. -/
theorem fixedDigits_lt_iff (hm : m < 10 ^ width) (hn : n < 10 ^ width) :
    fixedDigits width m < fixedDigits width n ↔ m < n := by
  induction width generalizing m n with
  | zero => simp_all [fixedDigits]
  | succ width ih =>
    have hm' : m / 10 < 10 ^ width := by omega
    have hn' : n / 10 < 10 ^ width := by omega
    rw [fixedDigits, fixedDigits, append_lt_append_iff (by simp), ih hm' hn', fixedDigits_inj hm' hn',
      List.cons_lt_cons_iff, digitChar_lt_iff (by omega) (by omega)]
    simp only [List.not_lt_nil, and_false, or_false]
    omega

theorem fixedDigits_append_lt_iff (hm : m < 10 ^ width) (hn : n < 10 ^ width) (r r' : List Char) :
    fixedDigits width m ++ r < fixedDigits width n ++ r' ↔ m < n ∨ m = n ∧ r < r' := by
  rw [append_lt_append_iff (by simp), fixedDigits_lt_iff hm hn, fixedDigits_inj hm hn]

end TypedStorage.Text
