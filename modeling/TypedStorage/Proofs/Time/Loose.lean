/-
The texts of an instant and the lenient reader, which takes back both texts of every instant (`ofLooseText?_shortText`,
`ofLooseText?_text`), with whatever year, sign and fraction, and with a leap second too.
-/
import TypedStorage.Proofs.Text.Blank
import TypedStorage.Proofs.Time.Text

namespace TypedStorage

namespace Text

theorem isBlank_of_isDigit {c : Char} (h : c.isDigit) : isBlank c = false := by
  have hc : 48 ≤ c.toNat ∧ c.toNat ≤ 57 := by
    simp only [Char.isDigit, Bool.and_eq_true, decide_eq_true_eq] at h
    exact ⟨h.1, h.2⟩
  rw [isBlank, ← Bool.not_eq_true, List.contains_iff_mem]
  intro hmem
  simp only [blankPoints, List.mem_cons, List.not_mem_nil, or_false] at hmem
  omega

/-- Zeros in front do not count. -/
theorem digitsValue_paddedDigits (width n : Nat) : digitsValue (paddedDigits width n) = n := by
  have zeros : ∀ (k : Nat) (cs : List Char), digitsValue (List.replicate k '0' ++ cs) = digitsValue cs := by
    intro k
    induction k with
    | zero => exact fun _ => rfl
    | succ k ih => exact fun cs => ih cs
  rw [paddedDigits, zeros, digitsValue_natDigits]

theorem fixedDigits_eq_cons {width : Nat} (hw : width ≠ 0) (n : Nat) :
    ∃ c cs, fixedDigits width n = c :: cs ∧ c.isDigit = true := by
  have hne : fixedDigits width n ≠ [] := by
    intro he
    have hlen := length_fixedDigits width n
    rw [he] at hlen
    exact hw hlen.symm
  obtain ⟨c, cs, he⟩ := List.exists_cons_of_ne_nil hne
  exact ⟨c, cs, he, isDigit_of_mem_fixedDigits (he ▸ List.mem_cons_self)⟩

theorem isDigit_of_mem_paddedDigits {width n : Nat} {c : Char} (h : c ∈ paddedDigits width n) : c.isDigit := by
  rcases List.mem_append.1 h with h | h
  · rw [List.eq_of_mem_replicate h]
    rfl
  · exact isDigit_of_mem_natDigits h

end Text

namespace Timestamp

open Time Text

theorem looseNat?_fixedDigits {width n : Nat} (hw : width ≠ 0) (h : n < 10 ^ width) (rest : List Char) :
    looseNat? width (fixedDigits width n ++ rest) = some (n, rest) := by
  have hdigits : ∀ c ∈ fixedDigits width n, c.isDigit := fun c hc => isDigit_of_mem_fixedDigits hc
  obtain ⟨c, cs, he, hc⟩ := fixedDigits_eq_cons hw n
  have htrim : trimStart (fixedDigits width n ++ rest) = fixedDigits width n ++ rest := by
    rw [he]
    exact trimStart_cons (isBlank_of_isDigit hc) _
  have hword : ((fixedDigits width n ++ rest).take width).takeWhile Char.isDigit = fixedDigits width n := by
    rw [List.take_left' (length_fixedDigits width n)]
    have hspan := congrArg Prod.fst (spanDigits_word hdigits .nil)
    rwa [List.append_nil] at hspan
  have hne : fixedDigits width n ≠ [] := he ▸ List.cons_ne_nil c cs
  simp only [looseNat?, htrim, hword, if_neg hne, digitsValue_fixedDigits h, List.drop_left' rfl]

theorem looseYear?_yearDigits (year : Int) {rest : List Char} (hr : StopsDigits rest) :
    looseYear? (yearDigits year ++ rest) = some (year, rest) := by
  unfold yearDigits
  split
  · next h =>
    have hnat : looseNat? 4 (fixedDigits 4 year.toNat ++ rest) = some (year.toNat, rest) :=
      looseNat?_fixedDigits (by decide) (by omega) rest
    have hcast : ((year.toNat : Nat) : Int) = year := Int.toNat_of_nonneg h.1
    obtain ⟨c, cs, he, hc⟩ := fixedDigits_eq_cons (by decide : 4 ≠ 0) year.toNat
    have htrim : trimStart (fixedDigits 4 year.toNat ++ rest) = c :: (cs ++ rest) := by
      rw [he]
      exact trimStart_cons (isBlank_of_isDigit hc) _
    unfold looseYear?
    rw [htrim]
    split
    · next hs => rw [(List.cons.inj hs).1] at hc; cases hc
    · next hs => rw [(List.cons.inj hs).1] at hc; cases hc
    · rw [he] at hnat
      rw [← List.cons_append, hnat, Option.map_some]
      simp only [hcast]
  · next h =>
    have hword : ∀ c ∈ paddedDigits 4 year.natAbs, c.isDigit := fun c hc => isDigit_of_mem_paddedDigits hc
    have hne : paddedDigits 4 year.natAbs ≠ [] := fun he => natDigits_ne_nil _ (List.append_eq_nil_iff.1 he).2
    have hsigned : ∀ negative, looseYear?.signedYear negative (paddedDigits 4 year.natAbs ++ rest)
        = some (if negative then -(year.natAbs : Int) else year.natAbs, rest) := by
      intro negative
      rw [looseYear?.signedYear, spanDigits_word hword hr]
      simp only [if_neg hne, digitsValue_paddedDigits]
    unfold looseYear?
    by_cases hneg : year < 0
    · rw [if_pos hneg, List.cons_append, trimStart_cons (by decide)]
      have hyear : -(year.natAbs : Int) = year := by omega
      exact (hsigned true).trans (by rw [if_pos rfl, hyear])
    · rw [if_neg hneg, List.cons_append, trimStart_cons (by decide)]
      have hyear : (year.natAbs : Int) = year := by omega
      exact (hsigned false).trans (by rw [if_neg Bool.false_ne_true, hyear])

theorem looseMark?_cons {c : Char} (hc : isBlank c = false) (cs : List Char) : looseMark? c (c :: cs) = some cs := by
  rw [looseMark?, trimStart_cons hc, expect?_cons]

/-- A fraction of up to nine places counts its digits from the left. -/
theorem readFraction?_places {width n : Nat} (hw : width ≠ 0) (hw9 : width ≤ 9) (h : n < 10 ^ width) {rest : List Char}
    (hr : StopsDigits rest) :
    readFraction? ('.' :: (fixedDigits width n ++ rest)) = some (n * 10 ^ (9 - width), rest) := by
  obtain ⟨c, cs, he, -⟩ := fixedDigits_eq_cons hw n
  have hne : fixedDigits width n ≠ [] := he ▸ List.cons_ne_nil c cs
  have ht : (fixedDigits width n).take 9 = fixedDigits width n := List.take_of_length_le (by simpa using hw9)
  have hs : spanDigits (fixedDigits width n ++ rest) = (fixedDigits width n, rest) :=
    spanDigits_word (fun c hc => isDigit_of_mem_fixedDigits hc) hr
  simp [readFraction?, hs, hne, ht, digitsValue_fixedDigits h]

theorem readFraction?_shortFraction {nanos : Nat} (h : nanos < 10 ^ 9) :
    readFraction? (shortFraction nanos ++ ['Z']) = some (nanos, ['Z']) := by
  have hz : StopsDigits ['Z'] := .cons (by decide)
  unfold shortFraction
  split
  · next h0 =>
    rw [h0]
    rfl
  split
  · next h0 =>
    rw [List.cons_append, readFraction?_places (by decide) (by decide) (by omega) hz]
    simp only [Option.some.injEq, Prod.mk.injEq, and_true]
    omega
  split
  · next h0 =>
    rw [List.cons_append, readFraction?_places (by decide) (by decide) (by omega) hz]
    simp only [Option.some.injEq, Prod.mk.injEq, and_true]
    omega
  · rw [List.cons_append, readFraction?_places (by decide) (by decide) h hz]
    simp

/-- A text of the instant is read back, whatever the places of its fraction are. -/
theorem ofLooseChars?_clockChars (t : Timestamp) {fraction : List Char}
    (h : readFraction? (fraction ++ ['Z']) = some (t.nanos % second, ['Z'])) :
    ofLooseChars? (t.clockChars ++ fraction ++ ['Z']) = some t := by
  have hlt := t.secondOfDay_lt
  have hsec : t.secondOfDay % 60 + t.nanos / second < 10 ^ 2 := by
    have := t.nanos_lt
    unfold second at this ⊢
    omega
  have hhour : t.secondOfDay / 3600 < 10 ^ 2 := by omega
  have hminute : t.secondOfDay / 60 % 60 < 10 ^ 2 := by omega
  have two_ne_zero : 2 ≠ 0 := by decide
  have hdash : isBlank '-' = false := by decide
  have hcolon : isBlank ':' = false := by decide
  have hzone : looseZone? (trimStart ['Z']) = some (0, []) := by decide
  unfold ofLooseChars? clockChars
  simp only [List.append_assoc, List.cons_append, looseYear?_yearDigits _ (.cons (by decide : '-'.isDigit = false)),
    looseNat?_fixedDigits two_ne_zero t.date_month_lt, looseNat?_fixedDigits two_ne_zero t.date_day_lt,
    looseNat?_fixedDigits two_ne_zero hhour, looseNat?_fixedDigits two_ne_zero hminute,
    looseNat?_fixedDigits two_ne_zero hsec, looseMark?_cons hdash, looseMark?_cons hcolon, h, hzone, separators,
    Option.bind_eq_bind, Option.bind_some, List.head?_cons, List.drop_succ_cons, List.drop_zero]
  exact t.ofLocal?_fields

theorem nanos_mod_lt (t : Timestamp) : t.nanos % second < 10 ^ 9 := Nat.mod_lt _ (by decide)

theorem ofLooseText?_shortText (t : Timestamp) : ofLooseText? t.shortText = some t := by
  rw [ofLooseText?, shortText, String.toList_ofList]
  exact t.ofLooseChars?_clockChars (readFraction?_shortFraction t.nanos_mod_lt)

/-- The stored text too, of every year. -/
theorem ofLooseText?_text (t : Timestamp) : ofLooseText? t.text = some t := by
  rw [ofLooseText?, text, String.toList_ofList]
  exact t.ofLooseChars?_clockChars (readFraction?_fixedDigits t.nanos_mod_lt (.cons (by decide)))

end Timestamp

end TypedStorage
