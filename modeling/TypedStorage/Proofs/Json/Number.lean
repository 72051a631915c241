/-
Numbers in JSON text. The text of a number is read as one number, whatever follows that does not go on with it
(`value?_number`). Integers are read back (`reread_int`). A double is read as `Number.reread` says, in the two
roundings of the reader, and that is the same double or one close to it.
-/
import TypedStorage.Json.Source
import TypedStorage.Json.Text
import TypedStorage.Proofs.Double.Text

namespace TypedStorage.Json

open Text

/-- What follows a number does not go on with it. -/
def StopsNumber (cs : List Char) : Prop := ∀ c ∈ cs.head?, c.isDigit = false ∧ c ≠ '.' ∧ c ≠ 'e' ∧ c ≠ 'E'

theorem StopsNumber.nil : StopsNumber [] := by simp [StopsNumber]

theorem StopsNumber.cons {c : Char} {cs : List Char} (h : c.isDigit = false ∧ c ≠ '.' ∧ c ≠ 'e' ∧ c ≠ 'E') :
    StopsNumber (c :: cs) := by
  simpa [StopsNumber] using h

theorem StopsNumber.stopsDigits {cs : List Char} (h : StopsNumber cs) : StopsDigits cs := fun c hc => (h c hc).1

/-! ## The parts of a number -/

def fractionChars : Option (List Char) → List Char
  | some word => '.' :: word
  | none => []

def exponentChars : Option Int → List Char
  | some power => 'e' :: (if power < 0 then '-' else '+') :: natDigits power.natAbs
  | none => []

/-- A number as its parts make it up; no needless zero stands in front of its digits. -/
structure IsNumberText (whole : List Char) (fraction : Option (List Char)) (cs : List Char) (exponent : Option Int) :
    Prop where
  text : cs = whole ++ (fractionChars fraction ++ exponentChars exponent)
  nonempty : whole ≠ []
  digits : ∀ c ∈ whole, c.isDigit
  noZero : whole.head? ≠ some '0' ∨ whole.length = 1
  fraction_nonempty : ∀ word ∈ fraction, word ≠ []
  fraction_digits : ∀ word ∈ fraction, ∀ c ∈ word, c.isDigit

theorem readExponent?_exponentChars (e : Option Int) {rest : List Char} (hr : StopsNumber rest) :
    Source.readExponent? (exponentChars e ++ rest) = some (e, rest) := by
  cases e with
  | none =>
    cases rest with
    | nil => rfl
    | cons c cs =>
      have := hr c (by simp)
      simp [exponentChars, Source.readExponent?, this]
  | some power =>
    have hs : spanDigits (natDigits power.natAbs ++ rest) = (natDigits power.natAbs, rest) :=
      spanDigits_word (fun c hc => isDigit_of_mem_natDigits hc) hr.stopsDigits
    simp only [exponentChars, List.cons_append, Source.readExponent?, true_or, if_true]
    split
    · next h =>
      simp only [List.cons.injEq] at h
      obtain ⟨hsign, rfl⟩ := h
      have hn : power < 0 := by
        by_contra hn
        simp [hn] at hsign
      simp only [Source.readPower?, hs, natDigits_ne_nil, if_false, digitsValue_natDigits, if_true, Option.some.injEq,
        Prod.mk.injEq, and_true]
      omega
    · next h =>
      simp only [List.cons.injEq] at h
      obtain ⟨hsign, rfl⟩ := h
      have hn : ¬power < 0 := by
        intro hn
        simp [hn] at hsign
      simp only [Source.readPower?, hs, natDigits_ne_nil, if_false, digitsValue_natDigits, Bool.false_eq_true,
        Option.some.injEq, Prod.mk.injEq, and_true]
      omega
    · next hm hp =>
      exfalso
      by_cases hn : power < 0
      · exact hm _ (by rw [if_pos hn])
      · exact hp _ (by rw [if_neg hn])

/-- A number is read to where its parts end. -/
theorem readUnsigned?_parts (negative : Bool) {whole cs rest : List Char} {fraction : Option (List Char)}
    {exponent : Option Int} (h : IsNumberText whole fraction cs exponent) (hr : StopsNumber rest) :
    Source.readUnsigned? negative (cs ++ rest) =
      some (.number (NumberToken.number? ⟨negative, whole, fraction, exponent⟩), rest) := by
  have hstop : StopsDigits (exponentChars exponent ++ rest) := by
    cases exponent with
    | none => exact hr.stopsDigits
    | some power => exact .cons (by decide)
  have hexp := readExponent?_exponentChars exponent hr
  have hfrac : Source.readFraction? (fractionChars fraction ++ (exponentChars exponent ++ rest))
      = some (fraction, exponentChars exponent ++ rest) := by
    cases fraction with
    | none =>
      unfold Source.readFraction? fractionChars
      split
      · next tail he =>
        cases exponent with
        | none => exact absurd rfl (hr '.' (by simp [exponentChars] at he; simp [he])).2.1
        | some power => simp [exponentChars] at he
      · rfl
    | some word =>
      have hs := spanDigits_word (h.fraction_digits word rfl) hstop
      simp [fractionChars, Source.readFraction?, hs, h.fraction_nonempty word rfl]
  have hspan : spanDigits (whole ++ (fractionChars fraction ++ (exponentChars exponent ++ rest)))
      = (whole, fractionChars fraction ++ (exponentChars exponent ++ rest)) := by
    refine spanDigits_word h.digits ?_
    cases fraction with
    | none => exact hstop
    | some word => exact .cons (by decide)
  rw [h.text, List.append_assoc, List.append_assoc]
  unfold Source.readUnsigned?
  simp only [hspan, hfrac, hexp, h.nonempty, h.noZero, ne_eq, not_false_eq_true, and_self, guard_true, Option.bind_eq_bind,
    Option.bind_some, Option.pure_def]

/-! ## Texts of numbers -/

theorem isNumberText_natDigits (n : Nat) : IsNumberText (natDigits n) none (natDigits n) none where
  text := by simp [fractionChars, exponentChars]
  nonempty := natDigits_ne_nil n
  digits _ hc := isDigit_of_mem_natDigits hc
  noZero := by
    by_cases h : n = 0
    · exact .inr (by subst h; rfl)
    · exact .inl (by simpa using head?_natDigits h [])
  fraction_nonempty := by simp
  fraction_digits := by simp

/-- A whole number is written with one zero after the point. -/
theorem isNumberText_whole {d : Decimal} (hd : d.digits ≠ 0 ∨ d.exponent = 0) (he : 0 ≤ d.exponent) :
    IsNumberText (natDigits d.digits ++ List.replicate d.exponent.toNat '0') (some ['0'])
      (Double.plainDigits d ++ ['.', '0']) none where
  text := by simp [Double.plainDigits, he, fractionChars, exponentChars]
  nonempty := by simp [natDigits_ne_nil]
  digits c hc := by
    rcases List.mem_append.1 hc with hc | hc
    · exact isDigit_of_mem_natDigits hc
    · exact isDigit_of_mem_replicate hc
  noZero := by
    by_cases h0 : d.digits = 0
    · right
      simp [hd.resolve_left (by simp [h0]), h0, natDigits_of_lt]
    · exact .inl (head?_natDigits h0 _)
  fraction_nonempty := by simp
  fraction_digits := by simp

/-- Any other number is written with the digits before the point, or a zero, and those after it. -/
theorem isNumberText_point {d : Decimal} (h0 : d.digits ≠ 0) (he : ¬0 ≤ d.exponent) :
    ∃ whole fraction, IsNumberText whole (some fraction) (Double.plainDigits d) none := by
  have hne := natDigits_ne_nil d.digits
  have hword : ∀ c ∈ natDigits d.digits, c.isDigit := fun c hc => isDigit_of_mem_natDigits hc
  unfold Double.plainDigits
  dsimp only
  rw [if_neg he]
  split
  · next hlt =>
    refine ⟨(natDigits d.digits).take ((natDigits d.digits).length - (-d.exponent).toNat),
      (natDigits d.digits).drop ((natDigits d.digits).length - (-d.exponent).toNat), ?_, ?_,
      fun c hc => hword c (List.mem_of_mem_take hc), ?_, ?_, ?_⟩
    · simp [fractionChars, exponentChars]
    · rw [Ne, List.take_eq_nil_iff]
      simp only [hne, or_false]
      omega
    · left
      rw [List.head?_take, if_neg (by omega)]
      simpa using head?_natDigits h0 []
    · simp only [Option.mem_def, Option.some.injEq, forall_eq', ne_eq, List.drop_eq_nil_iff]
      omega
    · simp only [Option.mem_def, Option.some.injEq, forall_eq']
      exact fun c hc => hword c (List.mem_of_mem_drop hc)
  · next hge =>
    refine ⟨['0'], List.replicate ((-d.exponent).toNat - (natDigits d.digits).length) '0' ++ natDigits d.digits,
      ?_, by simp, by simp, .inr rfl, by simp [hne], ?_⟩
    · simp [fractionChars, exponentChars]
    · simp only [Option.mem_def, Option.some.injEq, forall_eq']
      intro c hc
      rcases List.mem_append.1 hc with hc | hc
      · exact isDigit_of_mem_replicate hc
      · exact hword c hc

theorem isNumberText_scientificDigits (n : Nat) (power : Int) :
    IsNumberText ((natDigits n).take 1) (if 1 < (natDigits n).length then some ((natDigits n).drop 1) else none)
      (scientificDigits (natDigits n) power) (some power) where
  text := by
    unfold scientificDigits exponentChars
    split <;> simp [fractionChars]
  nonempty := by simp [natDigits_ne_nil]
  digits c hc := isDigit_of_mem_natDigits (List.mem_of_mem_take hc)
  noZero := by
    have := List.length_pos_iff.2 (natDigits_ne_nil n)
    right
    rw [List.length_take]
    omega
  fraction_nonempty := by
    split
    · simp only [Option.mem_def, Option.some.injEq, forall_eq', ne_eq, List.drop_eq_nil_iff]
      omega
    · simp
  fraction_digits := by
    split
    · simp only [Option.mem_def, Option.some.injEq, forall_eq']
      exact fun c hc => isDigit_of_mem_natDigits (List.mem_of_mem_drop hc)
    · simp

/-- The digits of a decimal number are a number in each of its forms, if a zero has no exponent. -/
theorem isNumberText_doubleDigits {d : Decimal} (hd : d.digits ≠ 0 ∨ d.exponent = 0) :
    ∃ whole fraction exponent, IsNumberText whole fraction (doubleDigits d) exponent := by
  unfold doubleDigits
  dsimp only
  split
  · split
    · next he => exact ⟨_, _, _, isNumberText_whole hd he⟩
    · next he =>
      obtain ⟨whole, fraction, h⟩ := isNumberText_point (hd.resolve_right (by omega)) he
      exact ⟨_, _, _, h⟩
  · exact ⟨_, _, _, isNumberText_scientificDigits _ _⟩

/-- The digits of a double that is no zero are no zeros. -/
theorem shortest_digits_ne_zero {x : Double.Finite} (tie : Double.Tie) (h : x.rank ≠ 0) : (x.shortest tie).digits ≠ 0 := by
  intro h0
  have := Double.ofDecimal_shortest tie h
  rw [Double.ofDecimal, if_pos h0, Double.zero] at this
  simp only [Double.finite.injEq] at this
  exact h (by rw [← this])

/-! ## Reading numbers as values -/

/-- A value that starts with a digit is a number. -/
theorem value?_digit (fuel : Nat) {c : Char} (hc : c.isDigit) (cs : List Char) :
    Source.value? (fuel + 1) (c :: cs) = Source.readUnsigned? false (c :: cs) := by
  have hs : Source.skipSpace (c :: cs) = c :: cs := by
    unfold Source.skipSpace
    rw [List.dropWhile_cons_of_neg]
    intro hspace
    simp only [Source.isSpace, Bool.or_eq_true, decide_eq_true_eq] at hspace
    rcases hspace with ((rfl | rfl) | rfl) | rfl <;> simp at hc
  rw [Source.value?, hs]
  split
  case h_8 => rfl
  all_goals
    next h =>
      simp only [List.cons.injEq] at h
      rw [h.1] at hc
      simp at hc

theorem value?_minus (fuel : Nat) (cs : List Char) :
    Source.value? (fuel + 1) ('-' :: cs) = Source.readUnsigned? true cs := by
  simp [Source.value?, Source.skipSpace, Source.isSpace]

/-- A sign and the parts of a number are one value. -/
theorem value?_signed (fuel : Nat) (negative : Bool) {whole cs : List Char} {fraction : Option (List Char)}
    {exponent : Option Int} (h : IsNumberText whole fraction cs exponent) {rest : List Char} (hr : StopsNumber rest) :
    Source.value? (fuel + 1) (Double.signed negative cs ++ rest) =
      some (.number (NumberToken.number? ⟨negative, whole, fraction, exponent⟩), rest) := by
  have hread := readUnsigned?_parts negative h hr
  cases negative with
  | true => exact (value?_minus fuel _).trans hread
  | false =>
    obtain ⟨c, w, rfl⟩ := List.exists_cons_of_ne_nil h.nonempty
    have hcs := h.text
    rw [List.cons_append] at hcs
    rw [hcs] at hread ⊢
    exact (value?_digit fuel (h.digits c List.mem_cons_self) _).trans hread

theorem number?_natDigits (i : Int) (hi : -0x8000000000000000 ≤ i ∧ i < 0x10000000000000000) :
    NumberToken.number? ⟨decide (i < 0), natDigits i.natAbs, none, none⟩ = some (.int i hi) := by
  have hvalue : (if decide (i < 0) = true then -(i.natAbs : Int) else i.natAbs) = i := by
    simp only [decide_eq_true_eq]
    split <;> omega
  simp only [NumberToken.number?, digitsValue_natDigits, hvalue]
  rw [dif_pos ⟨⟨rfl, rfl, by simp; omega⟩, hi⟩]

/-- An integer is read back. -/
theorem value?_int (fuel : Nat) (i : Int) (hi : -0x8000000000000000 ≤ i ∧ i < 0x10000000000000000) {rest : List Char}
    (hr : StopsNumber rest) :
    Source.value? (fuel + 1) (Number.chars (.int i hi) ++ rest) = some (.number (some (.int i hi)), rest) := by
  have he : Number.chars (.int i hi) = Double.signed (decide (i < 0)) (natDigits i.natAbs) := by
    by_cases h : i < 0 <;> simp [Number.chars, intDigits, Double.signed, h]
  rw [he, value?_signed fuel _ (isNumberText_natDigits i.natAbs) hr, number?_natDigits]

/-- The text of a number is a sign and the parts of a number. -/
theorem exists_isNumberText (n : Number) : ∃ negative whole fraction cs exponent,
    IsNumberText whole fraction cs exponent ∧ n.chars = Double.signed negative cs := by
  cases n with
  | int i hi =>
    refine ⟨decide (i < 0), _, _, _, _, isNumberText_natDigits i.natAbs, ?_⟩
    by_cases h : i < 0 <;> simp [Number.chars, intDigits, Double.signed, h]
  | double x =>
    have hd : (if x.rank = 0 then ⟨0, 0⟩ else x.shortest .toEven : Decimal).digits ≠ 0
        ∨ (if x.rank = 0 then ⟨0, 0⟩ else x.shortest .toEven : Decimal).exponent = 0 := by
      split
      · exact .inr rfl
      · next h => exact .inl (shortest_digits_ne_zero _ h)
    obtain ⟨whole, fraction, exponent, h⟩ := isNumberText_doubleDigits hd
    exact ⟨x.negative, _, _, _, _, h, rfl⟩

theorem exists_value?_number (n : Number) : ∃ m : Option Number, ∀ (fuel : Nat) (rest : List Char),
    StopsNumber rest → Source.value? (fuel + 1) (n.chars ++ rest) = some (.number m, rest) := by
  obtain ⟨negative, whole, fraction, cs, exponent, h, he⟩ := exists_isNumberText n
  rw [he]
  exact ⟨_, fun fuel rest hr => value?_signed fuel negative h hr⟩

/-- A number starts with a minus or a digit. -/
theorem exists_chars_eq_cons (n : Number) : ∃ c cs, n.chars = c :: cs ∧ (c = '-' ∨ c.isDigit) := by
  obtain ⟨negative, whole, fraction, cs, exponent, h, he⟩ := exists_isNumberText n
  rw [he]
  cases negative with
  | true => exact ⟨'-', cs, rfl, .inl rfl⟩
  | false =>
    obtain ⟨c, w, rfl⟩ := List.exists_cons_of_ne_nil h.nonempty
    exact ⟨c, _, h.text, .inr (h.digits c List.mem_cons_self)⟩

/-- The number that the text of a number is read as, if it is not too great for a double. -/
def Number.reread (n : Number) : Option Number :=
  match Source.readChars? n.chars with
  | some (.number m) => m
  | _ => none

/-- Characters that are one value to the end are the source of that value. -/
theorem readChars?_eq_some {cs : List Char} {x : Source} (h : Source.value? (cs.length + 1) cs = some (x, [])) :
    Source.readChars? cs = some x := by
  unfold Source.readChars?
  rw [h]
  rfl

theorem reread_eq {n : Number} {m : Option Number}
    (h : ∀ (fuel : Nat) (rest : List Char), StopsNumber rest →
      Source.value? (fuel + 1) (n.chars ++ rest) = some (.number m, rest)) :
    n.reread = m := by
  have hread := h n.chars.length [] .nil
  rw [List.append_nil] at hread
  rw [Number.reread, readChars?_eq_some hread]

theorem value?_number (fuel : Nat) (n : Number) {rest : List Char} (hr : StopsNumber rest) :
    Source.value? (fuel + 1) (n.chars ++ rest) = some (.number n.reread, rest) := by
  obtain ⟨m, hm⟩ := exists_value?_number n
  rw [reread_eq hm]
  exact hm fuel rest hr

theorem reread_int (i : Int) (hi : -0x8000000000000000 ≤ i ∧ i < 0x10000000000000000) :
    Number.reread (.int i hi) = some (.int i hi) :=
  reread_eq fun fuel _ hr => value?_int fuel i hi hr

end TypedStorage.Json
