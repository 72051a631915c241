/-
Different JSON values have different texts (`text_injective`), and so have even those that the reader takes for one: it
rounds numbers in its own way, and has a bound on nesting. Here a double is told by its digits, of which it is the nearest
double (`readChars?_doubleChars`), and from an integer by its point or its exponent. A value in an array or in an object is
told from what follows it, as the reader of values stops where its text ends (`chars_of_chars_append`).
-/
import TypedStorage.Proofs.Json.RoundTrip

namespace TypedStorage.Json

open Text

/-! ## Doubles -/

theorem doubleExponent?_exponentChars (exponent : Option Int) :
    Double.readExponent? (exponentChars exponent) = some (exponent.getD 0) := by
  cases exponent with
  | none => rfl
  | some power =>
    have hread : readInt? ((if power < 0 then '-' else '+') :: natDigits power.natAbs) = some power := by
      split
      · next h =>
        have hvalue : -(power.natAbs : Int) = power := by omega
        rw [readInt?, readNat?_natDigits]
        exact congrArg some hvalue
      · next h =>
        have hvalue : (power.natAbs : Int) = power := by omega
        rw [readInt?, readNat?_natDigits]
        exact congrArg some hvalue
    rw [exponentChars, Double.readExponent?, if_pos (.inl rfl), hread]
    rfl

/-- The parts of a number are the digits before and after the point, with an exponent that makes up for those after it. -/
theorem readDecimal?_parts {whole cs : List Char} {fraction : Option (List Char)} {exponent : Option Int}
    (h : IsNumberText whole fraction cs exponent) :
    Double.readDecimal? cs =
      some ⟨digitsValue (whole ++ fraction.getD []), exponent.getD 0 - (fraction.getD []).length⟩ := by
  have hstop : StopsDigits (exponentChars exponent) := by
    cases exponent with
    | none => exact .nil
    | some power => exact .cons (by decide)
  have hexp := doubleExponent?_exponentChars exponent
  rw [h.text]
  unfold Double.readDecimal?
  cases fraction with
  | none =>
    rw [fractionChars, List.nil_append, spanDigits_word h.digits hstop]
    cases exponent with
    | none => simp [exponentChars, h.nonempty, Double.readExponent?]
    | some power =>
      rw [exponentChars] at hexp ⊢
      simp [hexp, h.nonempty]
  | some word =>
    rw [fractionChars, List.cons_append, spanDigits_word h.digits (.cons (by decide))]
    simp [spanDigits_word (h.fraction_digits word rfl) hstop, hexp, h.nonempty]

/-- The digits of a decimal number are read as a number of the same value, in each of their forms. -/
theorem readDecimal?_doubleDigits (negative : Bool) (d : Decimal) :
    (Double.readDecimal? (doubleDigits d)).map (Double.ofDecimal negative) = some (Double.ofDecimal negative d) := by
  unfold doubleDigits
  dsimp only
  split
  · split
    · next he =>
      obtain ⟨word, hne, hword, hplain, hvalue⟩ := Double.plainDigits_of_nonneg he
      have hzero : digitsValue (word ++ ['0']) = digitsValue word * 10 := by
        have := digitsValue_append_digit word 0 (by decide)
        rwa [Nat.add_zero, Nat.mul_comm] at this
      have hshift : Double.ofDecimal negative ⟨d.digits * 10 ^ d.exponent.toNat * 10, -1⟩ = Double.ofDecimal negative d := by
        have hexponent : -1 + 1 + (d.exponent.toNat : Int) = d.exponent := by omega
        rw [Double.ofDecimal_shift, Double.ofDecimal_shifts, hexponent]
      rw [hplain, Double.readDecimal?_point hne hword (by simp), hzero, hvalue, Option.map_some]
      exact congrArg some hshift
    · exact Double.readDecimal?_plainDigits negative d
  · have hlength := List.length_pos_iff.2 (natDigits_ne_nil d.digits)
    have hvalue := digitsValue_natDigits d.digits
    rw [readDecimal?_parts (isNumberText_scientificDigits _ _)]
    split
    · next hlong =>
      simp only [Option.getD_some, List.take_append_drop, hvalue, List.length_drop, Option.map_some]
      congr 3
      omega
    · next hshort =>
      rw [Option.getD_none, List.append_nil, List.take_of_length_le (by omega), hvalue, Option.map_some]
      congr 3
      simp only [Option.getD_some, List.length_nil]
      omega

theorem shortest_zero_exponent (x : Double.Finite) (tie : Double.Tie) :
    (x.shortest tie).digits ≠ 0 ∨ (x.shortest tie).exponent = 0 := by
  by_cases h : x.rank = 0
  · rw [Double.shortest_of_rank_eq_zero h]
    exact .inr rfl
  · exact .inl (shortest_digits_ne_zero tie h)

theorem doubleChars_eq (x : Double.Finite) :
    doubleChars x = Double.signed x.negative (doubleDigits (x.shortest .toEven)) := by
  rw [doubleChars]
  split
  · next h => rw [Double.shortest_of_rank_eq_zero h]
  · rfl

/-- **The nearest double is read from the text of a double again.** -/
theorem readChars?_doubleChars (x : Double.Finite) : Double.readChars? (doubleChars x) = some (.finite x) := by
  obtain ⟨whole, fraction, exponent, h⟩ := isNumberText_doubleDigits (shortest_zero_exponent x .toEven)
  obtain ⟨c, word, rfl⟩ := List.exists_cons_of_ne_nil h.nonempty
  have hread := readDecimal?_doubleDigits x.negative (x.shortest .toEven)
  rw [doubleChars_eq]
  rw [h.text, List.cons_append] at hread ⊢
  rw [Double.readChars?_signed x.negative (h.digits c List.mem_cons_self), hread, Double.ofDecimal_shortest_self]

/-! ## Numbers -/

/-- A double is written with a point or an exponent. -/
theorem mem_doubleDigits (d : Decimal) : '.' ∈ doubleDigits d ∨ 'e' ∈ doubleDigits d := by
  unfold doubleDigits
  dsimp only
  split
  · split
    · exact .inl (by simp)
    · next he =>
      obtain ⟨whole, fraction, -, -, -, hplain, -⟩ := Double.plainDigits_of_neg (Int.not_le.1 he)
      rw [hplain]
      exact .inl (by simp)
  · exact .inr (by simp [scientificDigits])

theorem mem_doubleChars (x : Double.Finite) : '.' ∈ doubleChars x ∨ 'e' ∈ doubleChars x := by
  rw [doubleChars_eq]
  cases x.negative with
  | true => exact (mem_doubleDigits _).imp (List.mem_cons_of_mem _) (List.mem_cons_of_mem _)
  | false => exact mem_doubleDigits _

/-- An integer is not. -/
theorem eq_minus_or_isDigit_of_mem_intDigits {i : Int} {c : Char} (h : c ∈ intDigits i) : c = '-' ∨ c.isDigit := by
  unfold intDigits at h
  split at h
  · exact (List.mem_cons.1 h).imp_right isDigit_of_mem_natDigits
  · exact .inr (isDigit_of_mem_natDigits h)

theorem intDigits_ne_doubleChars (i : Int) (x : Double.Finite) : intDigits i ≠ doubleChars x := by
  intro h
  rcases h ▸ mem_doubleChars x with hmem | hmem <;>
    exact absurd (eq_minus_or_isDigit_of_mem_intDigits hmem) (by decide)

theorem Number.chars_injective : Function.Injective Number.chars := by
  intro n m h
  cases n with
  | int i hi =>
    cases m with
    | int j hj =>
      obtain rfl : i = j := injective_of_read readInt?_intDigits h
      rfl
    | double y => exact absurd h (intDigits_ne_doubleChars i y)
  | double x =>
    cases m with
    | int j hj => exact absurd h.symm (intDigits_ne_doubleChars j x)
    | double y =>
      have hread := congrArg Double.readChars? h
      rw [Number.chars, Number.chars, readChars?_doubleChars, readChars?_doubleChars, Option.some.injEq,
        Double.finite.injEq] at hread
      exact congrArg Number.double hread

/-! ## Values -/

theorem stringChars_append_inj {k k' : String} {cs cs' : List Char}
    (h : stringChars k ++ ':' :: cs = stringChars k' ++ ':' :: cs') : k = k' ∧ cs = cs' := by
  have hread := congrArg Source.readName? h
  rw [readName?_stringChars, readName?_stringChars] at hread
  simpa using hread

/-- The text of a value ends where the reader of values stops, so what follows it does not matter. -/
theorem readBack_of_chars_append {j j' : Json} {rest rest' : List Char} (hr : StopsNumber rest) (hr' : StopsNumber rest')
    (h : j.chars ++ rest = j'.chars ++ rest') : readBack j = readBack j' ∧ rest = rest' := by
  have hread := value?_chars j (j.chars.length + j'.chars.length) hr (Nat.le_add_right _ _)
  have hread' := value?_chars j' (j.chars.length + j'.chars.length) hr' (Nat.le_add_left _ _)
  rw [h, hread'] at hread
  simpa [eq_comm] using hread

theorem chars_of_chars_append {j j' : Json} {rest rest' : List Char} (hr : StopsNumber rest) (hr' : StopsNumber rest')
    (h : j.chars ++ rest = j'.chars ++ rest') : j.chars = j'.chars ∧ rest = rest' := by
  obtain ⟨-, rfl⟩ := readBack_of_chars_append hr hr' h
  exact ⟨List.append_cancel_right h, rfl⟩

/-- Values of one text are of one shape. -/
theorem readBack_of_chars {j j' : Json} (h : j.chars = j'.chars) : readBack j = readBack j' :=
  (readBack_of_chars_append .nil .nil (congrArg (· ++ []) h)).1

theorem itemChars_of_chars {items items' : List Json} (h : (Json.array items).chars = (Json.array items').chars) :
    itemChars items = itemChars items' := by
  have hshape := readBack_of_chars h
  match items, items' with
  | [], [] => rfl
  | [], _ :: _ => simp [readBack, readBackItems] at hshape
  | _ :: _, [] => simp [readBack, readBackItems] at hshape
  | j :: items, j' :: items' =>
    rw [chars, chars, List.cons.injEq] at h
    rw [itemChars, itemChars, h.2]

theorem memberChars_of_chars {members members' : List (String × Json)}
    (h : (Json.object members).chars = (Json.object members').chars) : memberChars members = memberChars members' := by
  have hshape := readBack_of_chars h
  match members, members' with
  | [], [] => rfl
  | [], (_, _) :: _ => simp [readBack, readBackMembers] at hshape
  | (_, _) :: _, [] => simp [readBack, readBackMembers] at hshape
  | (k, j) :: members, (k', j') :: members' =>
    rw [chars, chars, List.cons.injEq] at h
    rw [memberChars, memberChars, h.2]

/-- The text of the first part ends where the text of the others begins. -/
theorem chars_of_chars_itemChars {j j' : Json} {items items' : List Json}
    (h : j.chars ++ itemChars items = j'.chars ++ itemChars items') :
    j.chars = j'.chars ∧ itemChars items = itemChars items' :=
  chars_of_chars_append (by simpa using stopsNumber_itemChars items []) (by simpa using stopsNumber_itemChars items' []) h

theorem chars_of_chars_memberChars {j j' : Json} {members members' : List (String × Json)}
    (h : j.chars ++ memberChars members = j'.chars ++ memberChars members') :
    j.chars = j'.chars ∧ memberChars members = memberChars members' :=
  chars_of_chars_append (by simpa using stopsNumber_memberChars members [])
    (by simpa using stopsNumber_memberChars members' []) h

mutual

/-- Values of one text are equal: the reader says that they are of one shape, and then their parts have one text each. -/
theorem eq_of_chars : ∀ (j j' : Json), j.chars = j'.chars → j = j'
  | .null, j', h => by
    have hshape := readBack_of_chars h
    cases j' with
    | null => rfl
    | _ => simp [readBack] at hshape
  | .bool b, j', h => by
    have hshape := readBack_of_chars h
    cases j' with
    | bool b' => rw [Source.bool.inj hshape]
    | _ => simp [readBack] at hshape
  | .number n, j', h => by
    have hshape := readBack_of_chars h
    cases j' with
    | number m =>
      rw [chars, chars] at h
      rw [Number.chars_injective h]
    | _ => simp [readBack] at hshape
  | .string s, j', h => by
    have hshape := readBack_of_chars h
    cases j' with
    | string s' => rw [Option.some.inj (Source.string.inj hshape)]
    | _ => simp [readBack] at hshape
  | .array items, j', h => by
    have hshape := readBack_of_chars h
    cases j' with
    | array items' => rw [eq_of_itemChars items items' (itemChars_of_chars h)]
    | _ => simp [readBack] at hshape
  | .object members, j', h => by
    have hshape := readBack_of_chars h
    cases j' with
    | object members' => rw [eq_of_memberChars members members' (memberChars_of_chars h)]
    | _ => simp [readBack] at hshape

theorem eq_of_itemChars : ∀ (items items' : List Json), itemChars items = itemChars items' → items = items'
  | [], [], _ => rfl
  | [], j' :: items', h => by simp [itemChars] at h
  | j :: items, [], h => by simp [itemChars] at h
  | j :: items, j' :: items', h => by
    rw [itemChars, itemChars, List.cons.injEq] at h
    obtain ⟨hfirst, hothers⟩ := chars_of_chars_itemChars h.2
    rw [eq_of_chars j j' hfirst, eq_of_itemChars items items' hothers]

theorem eq_of_memberChars : ∀ (members members' : List (String × Json)), memberChars members = memberChars members' →
    members = members'
  | [], [], _ => rfl
  | [], (k', j') :: members', h => by simp [memberChars] at h
  | (k, j) :: members, [], h => by simp [memberChars] at h
  | (k, j) :: members, (k', j') :: members', h => by
    rw [memberChars, memberChars, List.cons.injEq] at h
    obtain ⟨rfl, hvalue⟩ := stringChars_append_inj h.2
    obtain ⟨hfirst, hothers⟩ := chars_of_chars_memberChars hvalue
    rw [eq_of_chars j j' hfirst, eq_of_memberChars members members' hothers]

end

/-- **Different values have different texts.** -/
theorem text_injective : Function.Injective text := fun j j' h => eq_of_chars j j' (String.ofList_injective h)

theorem Document.text_injective : Function.Injective Document.text := fun _ _ h => Document.ext (Json.text_injective h)

end TypedStorage.Json
