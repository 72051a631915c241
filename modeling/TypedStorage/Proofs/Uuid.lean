/-
The text of an identifier is read back (`ofText?_text`).
-/
import TypedStorage.Uuid
import Mathlib.Algebra.Group.Nat.Defs
import Mathlib.Data.List.Basic

namespace TypedStorage.Uuid

open Text

theorem hexValue?_digitChar {d : Nat} (h : d < 16) : hexValue? (Nat.digitChar d) = some d := by
  have all : ∀ d : Fin 16, hexValue? (Nat.digitChar d.val) = some d.val := by decide
  exact all ⟨d, h⟩

theorem length_fixedHex (width n : Nat) : (fixedHex width n).length = width := by
  induction width generalizing n with
  | zero => rfl
  | succ width ih => rw [fixedHex, List.length_append, ih, List.length_singleton]

/-- Digit by digit: the digits that are read so far, times their weight, and the number of the rest. -/
theorem foldlM_fixedHex (width n acc : Nat) :
    (fixedHex width n).foldlM (fun n c => (hexValue? c).map (16 * n + ·)) acc
      = some (acc * 16 ^ width + n % 16 ^ width) := by
  induction width generalizing n with
  | zero => simp [fixedHex, Nat.mod_one]
  | succ width ih =>
    have hmod : n % 16 ^ (width + 1) = n % 16 + 16 * (n / 16 % 16 ^ width) := by
      rw [Nat.pow_succ, Nat.mul_comm, Nat.mod_mul]
    rw [fixedHex, List.foldlM_append, ih]
    simp only [Option.bind_eq_bind, Option.bind_some, List.foldlM_cons, List.foldlM_nil,
      hexValue?_digitChar (Nat.mod_lt n (by decide)), Option.map_some, Option.pure_def, Option.some.injEq]
    rw [hmod, Nat.pow_succ]
    have := Nat.mul_assoc acc (16 ^ width) 16
    omega

theorem ofDigits?_digits (u : Uuid) : ofDigits? u.digits = some u := by
  have hlt := u.value.isLt
  rw [ofDigits?, digits, if_pos (length_fixedHex 32 _), hexNat?, foldlM_fixedHex]
  simp only [Option.map_some, Nat.zero_mul, Nat.zero_add]
  rw [Nat.mod_eq_of_lt (by omega), BitVec.ofNat_toNat, BitVec.setWidth_eq]

/-- The hyphens are found where they were put. -/
theorem dehyphenate?_groups {a b c d e : List Char} (ha : a.length = 8) (hb : b.length = 4) (hc : c.length = 4)
    (hd : d.length = 4) (he : e.length = 12) :
    dehyphenate? (a ++ '-' :: b ++ '-' :: c ++ '-' :: d ++ '-' :: e) = some (a ++ b ++ c ++ d ++ e) := by
  unfold dehyphenate?
  rw [if_pos]
  · simp [List.drop_append, List.drop_eq_nil_of_le, ha, hb, hc, hd]
  · simp [ha, hb, hc, hd, he]

theorem ofText?_text (u : Uuid) : ofText? u.text = some u := by
  have hlen : u.digits.length = 32 := length_fixedHex 32 _
  have hgroups : dehyphenate? u.chars = some u.digits := by
    rw [chars, dehyphenate?_groups (by simp [hlen]) (by simp [hlen]) (by simp [hlen]) (by simp [hlen]) (by simp [hlen])]
    have hgroup (i n : Nat) : (u.digits.drop i).take n ++ u.digits.drop (i + n) = u.digits.drop i := by
      rw [← List.drop_drop, List.take_append_drop]
    rw [List.append_assoc, List.append_assoc, List.append_assoc, hgroup 16 4, hgroup 12 4, hgroup 8 4,
      List.take_append_drop]
  have hchars : u.chars.length = 36 := by simp [chars, hlen]
  rw [ofText?, text, String.toList_ofList, ofChars?, if_neg (by omega), if_pos hchars, ofHyphenated?, hgroups,
    Option.bind_some, ofDigits?_digits]

end TypedStorage.Uuid
