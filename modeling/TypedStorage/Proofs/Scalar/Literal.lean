/-
The literal of a scalar is read back as what is stored for the scalar, and nothing of what follows it is read
(`Scalar.read?_literal`). A text may have quotes in it anywhere: each is doubled, so the reader takes it for one and goes
on, and the only quote that no other follows is the one that closes (`unquote?_quoteChars`). This is what keeps a default
or a key from being more of the statement than a value. Real numbers are left out; not all of them have a literal that
stands for them (`TypedStorage.Proofs.Scalar.Defaults`).
-/
import TypedStorage.Engine.Connection
import TypedStorage.Proofs.Scalar.Reader
import TypedStorage.Proofs.Schema.Cut

namespace TypedStorage

open Text Engine

theorem EndsLiteral.ne_quote {rest : List Char} (h : EndsLiteral rest) : rest.head? ≠ some '\'' :=
  fun hq => (h _ hq).1 rfl

theorem not_isDigit_of_not_isAlphanum {c : Char} (h : c.isAlphanum = false) : c.isDigit = false := by
  simp only [Char.isAlphanum, Bool.or_eq_false_iff] at h
  exact h.2

theorem EndsLiteral.stopsDigits {rest : List Char} (h : EndsLiteral rest) : StopsDigits rest :=
  fun c hc => not_isDigit_of_not_isAlphanum (h c hc).2.1

/-! ## Texts -/

/-- A text in quotes is read to the quote behind it, if that is not doubled. -/
theorem Literal.unquote?_quoteChars (cs : List Char) {rest : List Char} (h : rest.head? ≠ some '\'') :
    unquote? (cs.flatMap (fun c => if c = '\'' then ['\'', '\''] else [c]) ++ '\'' :: rest) = some (cs, rest) := by
  induction cs with
  | nil =>
    cases rest with
    | nil => rfl
    | cons c rest =>
      have hc : c ≠ '\'' := by simpa using h
      simp [unquote?, hc]
  | cons c cs ih =>
    rw [List.flatMap_cons, List.append_assoc]
    by_cases hc : c = '\''
    · simp [hc, unquote?, ih]
    · simp [hc, unquote?, ih]

theorem Literal.read?_quoteLiteral (s : String) {rest : List Char} (h : rest.head? ≠ some '\'') :
    read? ((Scalar.quoteLiteral s).toList ++ rest) = some (.text s, rest) := by
  rw [Scalar.quoteLiteral, String.toList_ofList, Scalar.quoteChars, List.cons_append, List.append_assoc,
    List.singleton_append]
  change (unquote? _).map _ = _
  simp only [unquote?_quoteChars _ h, Option.map_some, String.ofList_toList]

/-! ## Bytes -/

theorem readHexChars?_upper (bytes : List UInt8) :
    readHexChars? ((bytes.flatMap hexByte).map Char.toUpper) = some bytes := by
  have hdigit : ∀ n : Fin 16, hexValue? n.val.digitChar.toUpper = some n.val := by decide
  induction bytes with
  | nil => rfl
  | cons b bytes ih =>
    have hlt : b.toNat < 256 := b.toNat_lt
    have hhigh := hdigit ⟨b.toNat / 16, by omega⟩
    have hlow := hdigit ⟨b.toNat % 16, by omega⟩
    have hb : UInt8.ofNat (16 * (b.toNat / 16) + b.toNat % 16) = b := by rw [Nat.div_add_mod, UInt8.ofNat_toNat]
    simp only [List.flatMap_cons, hexByte, List.cons_append, List.nil_append, List.map_cons, readHexChars?, hhigh, hlow,
      ih, Option.bind_eq_bind, Option.bind_some, hb, Option.pure_def]

theorem Literal.read?_blobLiteral (bytes : List UInt8) (rest : List Char) :
    read? ((Scalar.blobLiteral bytes).toList ++ rest) = some (.blob bytes, rest) := by
  have hdigits : ∀ c ∈ (bytes.flatMap hexByte).map Char.toUpper, decide (c ≠ '\'') = true := fun c hc =>
    decide_eq_true (ne_quote_of_mem_hex hc)
  rw [Scalar.blobLiteral, String.toList_ofList, List.cons_append, List.cons_append, List.append_assoc,
    List.singleton_append]
  change (bytes? _).map _ = _
  rw [bytes?, List.dropWhile_append_of_pos hdigits, List.takeWhile_append_of_pos hdigits]
  simp [readHexChars?_upper]

/-! ## Numbers -/

namespace Numeral

theorem sign_signed (negative : Bool) {c : Char} (hc : c.isDigit) (cs : List Char) :
    sign (Double.signed negative (c :: cs)) = (negative, c :: cs) := by
  cases negative with
  | true => rfl
  | false =>
    have hne : c ≠ '-' := by rintro rfl; simp at hc
    simp [Double.signed, sign, hne]

theorem signed_append (negative : Bool) (cs rest : List Char) :
    Double.signed negative cs ++ rest = Double.signed negative (cs ++ rest) := by
  cases negative <;> rfl

/-- What may follow a literal goes on no numeral. -/
theorem fractionOf_eq_none {rest : List Char} (h : EndsLiteral rest) : fractionOf rest = (none, rest) := by
  cases rest with
  | nil => rfl
  | cons c rest =>
    have hc : c ≠ '.' := (h c rfl).2.2
    simp [fractionOf, hc]

theorem exponentOf?_eq_none {rest : List Char} (h : EndsLiteral rest) : exponentOf? rest = some (none, rest) := by
  cases rest with
  | nil => rfl
  | cons c rest =>
    have hc : ∀ d : Char, d.isAlphanum → c ≠ d := by
      rintro d hd rfl
      exact absurd (h c rfl).2.1 (by simp [hd])
    simp [exponentOf?, hc 'e' rfl, hc 'E' rfl]

variable {word rest : List Char}

/-- The sign and the digits in front of the point are read first. -/
theorem read?_signed (negative : Bool) (hne : word ≠ []) (hword : ∀ c ∈ word, c.isDigit) (hrest : StopsDigits rest) :
    read? (Double.signed negative word ++ rest) = (exponentOf? (fractionOf rest).2).map fun (exponent, rest') =>
      (⟨negative, word, (fractionOf rest).1, exponent⟩, rest') := by
  obtain ⟨c, cs, rfl⟩ := List.exists_cons_of_ne_nil hne
  have hspan := spanDigits_word hword hrest
  rw [List.cons_append] at hspan
  rw [signed_append, List.cons_append, read?, sign_signed negative (hword c List.mem_cons_self)]
  simp only [hspan]
  cases exponentOf? (fractionOf rest).2 <;> rfl

theorem read?_whole (negative : Bool) (hne : word ≠ []) (hword : ∀ c ∈ word, c.isDigit) (hrest : EndsLiteral rest) :
    read? (Double.signed negative word ++ rest) = some (⟨negative, word, none, none⟩, rest) := by
  rw [read?_signed negative hne hword hrest.stopsDigits, fractionOf_eq_none hrest, exponentOf?_eq_none hrest,
    Option.map_some]

end Numeral

theorem intDigits_eq_signed (i : Int) : intDigits i = Double.signed (i < 0) (natDigits i.natAbs) := by
  unfold intDigits Double.signed
  simp only [decide_eq_true_eq]

/-- A word that starts with no letter is not null. -/
theorem Literal.read?_signed (negative : Bool) {c : Char} (hc : c.isDigit) (cs : List Char) :
    read? (Double.signed negative (c :: cs)) =
      (Numeral.read? (Double.signed negative (c :: cs))).map fun (n, rest) => (n.value, rest) := by
  have hne : ∀ d : Char, d.isDigit = false → c ≠ d := by
    rintro d hd rfl
    exact absurd hc (by simp [hd])
  have hupper : c.toUpper = c := by
    simp only [Char.isDigit, Bool.and_eq_true, decide_eq_true_eq] at hc
    unfold Char.toUpper
    rw [dif_neg]
    intro h
    have := Nat.le_trans h.1 hc.2
    simp at this
  cases negative with
  | true => rfl
  | false =>
    have hword : word (c :: cs) ≠ ['N', 'U', 'L', 'L'] := by
      simp [word, Char.isAlphanum, hc, hupper, hne 'N' rfl]
    have hbare : read? (c :: cs) = bare? (c :: cs) := by
      unfold read?
      split
      · next h => exact absurd (List.cons.inj h).1 (hne _ rfl)
      · next h => exact absurd (List.cons.inj h).1 (hne _ rfl)
      · next h => exact absurd (List.cons.inj h).1 (hne _ rfl)
      · rfl
    rw [Double.signed, if_neg Bool.false_ne_true, hbare, bare?, if_neg hword]

theorem Literal.read?_intText (i : Int64) {rest : List Char} (h : EndsLiteral rest) :
    read? ((intText i.toInt).toList ++ rest) = some (.integer i, rest) := by
  obtain ⟨c, cs, hw⟩ := List.exists_cons_of_ne_nil (natDigits_ne_nil i.toInt.natAbs)
  have hc : c.isDigit := isDigit_of_mem_natDigits (hw ▸ List.mem_cons_self)
  have hread := Numeral.read?_whole (decide (i.toInt < 0)) (natDigits_ne_nil i.toInt.natAbs)
    (fun c hc => isDigit_of_mem_natDigits hc) h
  have hinteger : Numeral.integer ⟨decide (i.toInt < 0), natDigits i.toInt.natAbs, none, none⟩ = i.toInt := by
    simp only [Numeral.integer, digitsValue_natDigits, decide_eq_true_eq]
    split <;> omega
  have hlo := i.le_toInt
  have hhi := i.toInt_lt
  rw [intText, String.toList_ofList, intDigits_eq_signed]
  rw [hw, Numeral.signed_append, List.cons_append] at hread ⊢
  rw [read?_signed _ hc, hread, Option.map_some, ← hw]
  simp only [Numeral.value, hinteger]
  rw [if_pos ⟨rfl, by omega, by omega⟩, Int64.ofInt_toInt]

/-! ## Literals -/

/-- A word is read as far as its letters and digits go. -/
theorem Literal.read?_null {rest : List Char} (h : EndsLiteral rest) :
    read? ("NULL".toList ++ rest) = some (.null, rest) := by
  have hchars : "NULL".toList = ['N', 'U', 'L', 'L'] := by decide
  have hword := List.all_eq_true.1 (by decide : ['N', 'U', 'L', 'L'].all Char.isAlphanum)
  have hstop : rest.takeWhile Char.isAlphanum = [] ∧ rest.dropWhile Char.isAlphanum = rest := by
    cases rest with
    | nil => exact ⟨rfl, rfl⟩
    | cons c rest => simp [(h c rfl).2.1]
  rw [hchars]
  change bare? (['N', 'U', 'L', 'L'] ++ rest) = _
  rw [bare?, word, List.takeWhile_append_of_pos hword, List.dropWhile_append_of_pos hword, hstop.1, hstop.2]
  rfl

theorem Literal.read?_of_ne_real {v : Scalar} (hv : ∀ x, v ≠ .real x) {rest : List Char} (h : EndsLiteral rest) :
    read? (v.literal.toList ++ rest) = some (Stored.ofScalar v, rest) := by
  have hquoted : ∀ s : String, read? ((Scalar.quoteLiteral s).toList ++ rest) = some (.text s, rest) :=
    fun s => read?_quoteLiteral s h.ne_quote
  cases v with
  | null => exact read?_null h
  | text s => exact hquoted s
  | integer i => exact read?_intText i h
  | real x => exact absurd rfl (hv x)
  | boolean b =>
    cases b with
    | false => exact read?_intText 0 h
    | true => exact read?_intText 1 h
  | blob bytes => exact read?_blobLiteral bytes rest
  | timestamp t => exact hquoted t.text
  | uuid u => exact hquoted u.text
  | json d => exact hquoted d.text

/--
**The literal of a scalar that is no real number is read as what is stored for it, to its last character**, whatever
follows, if it is nothing that could go on a literal; and so is the key that a connection sets.
-/
theorem Scalar.read?_literal {rest : List Char} (h : EndsLiteral rest) :
    (∀ v : Scalar, (∀ x, v ≠ .real x) →
      Literal.read? (v.literal.toList ++ rest) = some (Stored.ofScalar v, rest)) ∧
    ∀ key : String, ∃ text, Connection.pragmas (some key) = [("key", text)] ∧
      Literal.read? (text.toList ++ rest) = some (.text key, rest) :=
  ⟨fun _ hv => Literal.read?_of_ne_real hv h,
    fun key => ⟨quoteLiteral key, rfl, Literal.read?_quoteLiteral key h.ne_quote⟩⟩

/-- A text and a key that start and end with quotes, in front of what would be more of the statement. -/
theorem Scalar.read?_literal_quotes :
    let rest := "); DROP TABLE t".toList
    EndsLiteral rest ∧
      Literal.read? ((Scalar.text "''); --'").literal.toList ++ rest) = some (.text "''); --'", rest) ∧
      (Scalar.text "''); --'").literal = "'''''); --'''" ∧
      ∃ text, Connection.pragmas (some "'k''") = [("key", text)] ∧
        Literal.read? (text.toList ++ rest) = some (.text "'k''", rest) := by
  intro rest
  have hrest : EndsLiteral rest := by simp [EndsLiteral, rest]
  exact ⟨hrest, (read?_literal hrest).1 (.text "''); --'") (fun _ => Scalar.noConfusion), by decide +kernel,
    (read?_literal hrest).2 "'k''"⟩

end TypedStorage
