/-
Strings in JSON text: what stands between the quotes is read back as it was written, whatever follows.

Reading goes in two steps, pieces first and then their characters, because two pieces can be one character. No
text that is written needs that: a control character is one unit, and never half of a pair.
-/
import TypedStorage.Json.Source
import TypedStorage.Json.Text

namespace TypedStorage.Json

open Text

/-! ## One character -/

/-- The piece that an escaped character is read as. -/
def Source.Piece.ofChar (c : Char) : Source.Piece :=
  if c.toNat < 0x20 ∧ c ∉ ['\x08', '\x0c', '\n', '\r', '\t'] then .unit c.toNat else .char c

/-- Both digits of a control character, and zeros before them, are its number. -/
theorem hexUnit?_control {n : Nat} (h : n < 0x20) :
    ∃ a b, hexByte (UInt8.ofNat n) = [a, b] ∧ Source.hexUnit? '0' '0' a b = some n := by
  have all : ∀ n : Fin 0x20, ∃ a b, hexByte (UInt8.ofNat n.val) = [a, b] ∧ Source.hexUnit? '0' '0' a b = some n.val := by
    intro n
    refine ⟨Nat.digitChar ((UInt8.ofNat n.val).toNat / 16), Nat.digitChar ((UInt8.ofNat n.val).toNat % 16), rfl, ?_⟩
    revert n
    decide +kernel
  exact all ⟨n, h⟩

/-- An escape of one letter is a piece. -/
theorem pieces?_simpleEscape {e c : Char} (h : Source.simpleEscape? e = some c) (cs : List Char) :
    Source.pieces? ('\\' :: e :: cs) = (Source.pieces? cs).map fun p => (.char c :: p.1, p.2) := by
  rw [Source.pieces?.eq_def]
  split
  · next he => simp at he
  · next he => simp at he
  · next he =>
    simp only [List.cons.injEq, true_and] at he
    rw [he.1] at h
    simp [Source.simpleEscape?] at h
  · next he =>
    simp only [List.cons.injEq, true_and] at he
    obtain ⟨rfl, rfl⟩ := he
    rw [h]
    cases Source.pieces? cs <;> rfl
  · next hne he =>
    simp only [List.cons.injEq] at he
    exact absurd he.2.symm (hne e cs he.1.symm)

/-- A character that is not escaped is a piece by itself. -/
theorem pieces?_plain {c : Char} (hq : c ≠ '"') (hb : c ≠ '\\') (hc : ¬c.toNat < 0x20) (cs : List Char) :
    Source.pieces? (c :: cs) = (Source.pieces? cs).map fun p => (.char c :: p.1, p.2) := by
  rw [Source.pieces?.eq_def]
  split
  · next h => simp at h
  · next h => simp_all
  · next h => simp_all
  · next h => simp_all
  · next h =>
    simp only [List.cons.injEq] at h
    obtain ⟨rfl, rfl⟩ := h
    rw [if_neg hc]
    cases Source.pieces? cs <;> rfl

theorem pieces?_escapeChar (c : Char) (cs : List Char) :
    Source.pieces? (escapeChar c ++ cs) = (Source.pieces? cs).map fun p => (Source.Piece.ofChar c :: p.1, p.2) := by
  unfold escapeChar
  split
  case h_8 _ h1 h2 h3 h4 h5 h6 h7 =>
    split
    · next hc =>
      obtain ⟨a, b, hab, hu⟩ := hexUnit?_control hc
      have ho : Source.Piece.ofChar c = .unit c.toNat := by
        simp_all [Source.Piece.ofChar]
      simp only [hab, List.cons_append, List.nil_append, Source.pieces?, hu, ho]
      cases Source.pieces? cs <;> rfl
    · next hc =>
      have ho : Source.Piece.ofChar c = .char c := by simp [Source.Piece.ofChar, hc]
      rw [ho]
      exact pieces?_plain h1 h2 hc cs
  all_goals exact pieces?_simpleEscape rfl cs

/-! ## Whole strings -/

theorem pieces?_flatMap (cs rest : List Char) :
    Source.pieces? (cs.flatMap escapeChar ++ '"' :: rest) = some (cs.map Source.Piece.ofChar, rest) := by
  induction cs with
  | nil => rfl
  | cons c cs ih =>
    rw [List.flatMap_cons, List.append_assoc, pieces?_escapeChar, ih]
    rfl

theorem joinPieces?_map (cs : List Char) : Source.joinPieces? (cs.map Source.Piece.ofChar) = some cs := by
  induction cs with
  | nil => rfl
  | cons c cs ih =>
    rw [List.map_cons, Source.Piece.ofChar]
    split
    · next h =>
      have hhigh : Source.isHigh c.toNat = false := by simp [Source.isHigh]; omega
      have hlow : Source.isLow c.toNat = false := by simp [Source.isLow]; omega
      rw [Source.joinPieces?.eq_def]
      split
      · next he => simp at he
      · next he => simp at he
      · next he =>
        simp only [List.cons.injEq, Source.Piece.unit.injEq] at he
        obtain ⟨rfl, he⟩ := he
        rw [← he, ih]
        simp [hhigh, hlow]
      · next he =>
        simp only [List.cons.injEq, Source.Piece.unit.injEq] at he
        obtain ⟨rfl, rfl⟩ := he
        rw [ih]
        simp [hhigh, hlow]
    · simp [Source.joinPieces?, ih]

/-- A string is read to its closing quote. -/
theorem readString?_stringChars (s : String) (rest : List Char) :
    Source.readString? (s.toList.flatMap escapeChar ++ '"' :: rest) = some (some s, rest) := by
  simp [Source.readString?, pieces?_flatMap, joinPieces?_map]

end TypedStorage.Json
