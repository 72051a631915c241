/-
Which names there can be (`names_checked`). Two checks are made of a name, one where a record type is declared and one
where a table is used, each with a list of reserved words of its own. They go through five faults in one order and find
the same one. A name without fault is a short word of letters, digits and underscores: whatever stands around it in a
statement, the statement is read with that word in it.
-/
import TypedStorage.Proofs.Query.Spelling
import TypedStorage.Proofs.Text.Order
import TypedStorage.Record.Declaration

namespace TypedStorage

namespace Identifier

/-! ## What a name must be -/

/-- A letter of ASCII, a digit or an underscore. -/
def PartOfName (c : Char) : Prop := ('A' ≤ c ∧ c ≤ 'Z') ∨ ('a' ≤ c ∧ c ≤ 'z') ∨ ('0' ≤ c ∧ c ≤ '9') ∨ c = '_'

/-- The texts are one but for the case of letters of ASCII. -/
def SameWord (s t : String) : Prop := s.toList.map Char.toLower = t.toList.map Char.toLower

structure WellFormed (s : String) : Prop where
  nonempty : 1 ≤ s.length
  short : s.length ≤ 63
  parts : ∀ c ∈ s.toList, PartOfName c
  start : ∀ c ∈ s.toList.head?, ¬('0' ≤ c ∧ c ≤ '9')
  free : ∀ w ∈ reservedWords, ¬SameWord s w

/-! ## The five faults -/

/-- What each fault says of a name, whatever else is wrong with it. -/
def Marks (s : String) : NameFault → Prop
  | .empty => s = ""
  | .tooLong n => n = s.utf8ByteSize ∧ 63 < n
  | .badStart => ¬∃ c ∈ s.toList.head?, PartOfName c ∧ ¬('0' ≤ c ∧ c ≤ '9')
  | .badCharacter => ∃ c ∈ s.toList, ¬PartOfName c
  | .reserved => ∃ w ∈ reservedWords, SameWord s w

/-- The faults in the order in which they are looked for. -/
def faults (s : String) : List NameFault := [.empty, .tooLong s.utf8ByteSize, .badStart, .badCharacter, .reserved]

/-- The fault is the first that the name has. -/
def IsFirst (s : String) (fault : NameFault) : Prop :=
  ∃ before after, faults s = before ++ fault :: after ∧ Marks s fault ∧ ∀ f ∈ before, ¬Marks s f

/-! ## Characters -/

theorem isUpper_iff {c : Char} : c.isUpper ↔ 'A' ≤ c ∧ c ≤ 'Z' := decide_eq_true_iff

theorem isAlpha_iff {c : Char} : c.isAlpha ↔ ('A' ≤ c ∧ c ≤ 'Z') ∨ ('a' ≤ c ∧ c ≤ 'z') := by
  have hlower : c.isLower ↔ 'a' ≤ c ∧ c ≤ 'z' :=
    Bool.and_eq_true_iff.trans (and_congr decide_eq_true_iff decide_eq_true_iff)
  exact Bool.or_eq_true_iff.trans (or_congr isUpper_iff hlower)

theorem isPart_iff {c : Char} : isPart c ↔ PartOfName c := by
  have hdigit : c.isDigit ↔ '0' ≤ c ∧ c ≤ '9' :=
    Bool.and_eq_true_iff.trans (and_congr decide_eq_true_iff decide_eq_true_iff)
  have halphanum : c.isAlphanum ↔ c.isAlpha ∨ c.isDigit := Bool.or_eq_true_iff
  rw [isPart, Bool.or_eq_true, halphanum, isAlpha_iff, hdigit, decide_eq_true_iff, PartOfName, or_assoc, or_assoc]

theorem le_iff_toNat_le {c d : Char} : c ≤ d ↔ c.toNat ≤ d.toNat := UInt32.le_iff_toNat_le

theorem partOfName_iff {c : Char} : PartOfName c ↔
    (65 ≤ c.toNat ∧ c.toNat ≤ 90) ∨ (97 ≤ c.toNat ∧ c.toNat ≤ 122) ∨ (48 ≤ c.toNat ∧ c.toNat ≤ 57) ∨ c.toNat = 95 := by
  have hline : c = '_' ↔ c.toNat = 95 := Char.toNat_inj.symm
  simp only [PartOfName, hline, le_iff_toNat_le, Char.reduceToNat]

theorem isStart_iff {c : Char} : isStart c ↔ PartOfName c ∧ ¬('0' ≤ c ∧ c ≤ '9') := by
  have hline : c = '_' ↔ c.toNat = 95 := Char.toNat_inj.symm
  rw [isStart, Bool.or_eq_true, isAlpha_iff, decide_eq_true_iff, partOfName_iff, hline]
  simp only [le_iff_toNat_le, Char.reduceToNat]
  omega

theorem toNat_toLower (c : Char) :
    c.toLower.toNat = if 65 ≤ c.toNat ∧ c.toNat ≤ 90 then c.toNat + 32 else c.toNat := by
  have hiff : (c.val ≥ 'A'.val ∧ c.val ≤ 'Z'.val) ↔ 65 ≤ c.toNat ∧ c.toNat ≤ 90 := by
    rw [ge_iff_le, UInt32.le_iff_toNat_le, UInt32.le_iff_toNat_le]
    rfl
  unfold Char.toLower
  split
  · next h =>
    have hc := hiff.1 h
    rw [if_pos hc]
    change (c.toNat + 32) % 2 ^ 32 = _
    omega
  · next h => rw [if_neg (mt hiff.2 h)]

theorem toNat_toUpper (c : Char) :
    c.toUpper.toNat = if 97 ≤ c.toNat ∧ c.toNat ≤ 122 then c.toNat - 32 else c.toNat := by
  have hiff : ('a'.val ≤ c.val ∧ c.val ≤ 'z'.val) ↔ 97 ≤ c.toNat ∧ c.toNat ≤ 122 := by
    rw [UInt32.le_iff_toNat_le, UInt32.le_iff_toNat_le]
    rfl
  unfold Char.toUpper
  split
  · next h =>
    have hc := hiff.1 h
    -- 32 is taken away by adding what is left of the word size
    have hshift : ('A'.val - 'a'.val).toNat = 4294967264 := by decide
    rw [if_pos hc]
    change (c.val + ('A'.val - 'a'.val)).toNat = _
    rw [UInt32.toNat_add, hshift]
    change (c.toNat + 4294967264) % 4294967296 = _
    omega
  · next h => rw [if_neg (mt hiff.2 h)]

/-! ## Words in any case -/

/-- A capital is what a letter becomes in capitals just where the two are one but for case. -/
theorem toUpper_eq_iff {c u : Char} (hu : u.isUpper) : c.toUpper = u ↔ c.toLower = u.toLower := by
  have hrange : 65 ≤ u.toNat ∧ u.toNat ≤ 90 := (isUpper_iff.1 hu).imp le_iff_toNat_le.1 le_iff_toNat_le.1
  rw [← Char.toNat_inj, ← Char.toNat_inj, toNat_toUpper, toNat_toLower, toNat_toLower, if_pos hrange]
  split_ifs <;> omega

theorem map_toUpper_eq_iff {cs us : List Char} (hus : ∀ u ∈ us, u.isUpper) :
    cs.map Char.toUpper = us ↔ cs.map Char.toLower = us.map Char.toLower := by
  induction us generalizing cs with
  | nil => simp
  | cons u us ih =>
    cases cs with
    | nil => simp
    | cons c cs =>
      rw [List.map_cons, List.map_cons, List.map_cons, List.cons_eq_cons, List.cons_eq_cons,
        toUpper_eq_iff (hus u List.mem_cons_self), ih fun v hv => hus v (List.mem_cons_of_mem _ hv)]

/-- The words of the list are in capitals, so that a name is looked up in capitals. -/
theorem contains_upper_iff {s : String} : reservedWords.contains (upper s) ↔ ∃ w ∈ reservedWords, SameWord s w := by
  have hcapitals : ∀ w ∈ reservedWords, w.toList.all Char.isUpper := by decide
  have hupper : ∀ w ∈ reservedWords, upper s = w ↔ SameWord s w := fun w hw => by
    rw [SameWord, ← map_toUpper_eq_iff (List.all_eq_true.1 (hcapitals w hw)), upper, ← String.toList_inj,
      String.toList_ofList]
  rw [List.contains_iff_mem]
  constructor
  · exact fun h => ⟨upper s, h, (hupper _ h).1 rfl⟩
  · rintro ⟨w, hw, hs⟩
    rwa [(hupper w hw).2 hs]

/-! ## Bytes and characters -/

/-- What has only characters of a name has as many bytes as characters. -/
theorem utf8ByteSize_of_parts {s : String} (h : ∀ c ∈ s.toList, PartOfName c) : s.utf8ByteSize = s.length := by
  have hbytes : (Text.utf8Bytes s).length = s.utf8ByteSize := by simp [Text.utf8Bytes]
  have hsize : ∀ c ∈ s.toList, c.utf8Size = 1 := fun c hc => by
    have hpart := partOfName_iff.1 (h c hc)
    refine Char.utf8Size_eq_one_iff.2 (UInt32.le_iff_toNat_le.2 ?_)
    change c.toNat ≤ 127
    omega
  rw [← hbytes, Text.utf8Bytes_eq_flatMap, List.length_flatMap, ← String.length_toList]
  simp [List.map_congr_left hsize]

/-! ## The first fault -/

open Classical in
theorem nameFault?_eq_find? (s : String) : Declaration.nameFault? s = (faults s).find? (decide <| Marks s ·) := by
  have hcons : ∀ f fs, (f :: fs).find? (decide <| Marks s ·) =
      if Marks s f then some f else fs.find? (decide <| Marks s ·) := fun f fs => by
    rw [List.find?_cons]
    by_cases h : Marks s f
    · rw [if_pos h, decide_eq_true h]
    · rw [if_neg h, decide_eq_false h]
  have hlong : 63 < s.utf8ByteSize ↔ Marks s (.tooLong s.utf8ByteSize) := (and_iff_right rfl).symm
  have hstart : (!s.toList.head?.any isStart) = true ↔ Marks s .badStart := by
    rw [Marks, Bool.not_eq_true', ← Bool.not_eq_true, Option.any_eq_true]
    simp only [isStart_iff]
    rfl
  have hparts : (!s.toList.all isPart) = true ↔ Marks s .badCharacter := by
    simp [Marks, isPart_iff]
  have hfree : Declaration.isReserved s = true ↔ Marks s .reserved := contains_upper_iff
  simp only [faults, hcons, List.find?_nil, Declaration.nameFault?]
  exact if_congr Iff.rfl rfl (if_congr hlong rfl (if_congr hstart rfl (if_congr hparts rfl (if_congr hfree rfl rfl))))

theorem nameFault?_eq_some_iff {s : String} {f : NameFault} : Declaration.nameFault? s = some f ↔ IsFirst s f := by
  classical
  rw [nameFault?_eq_find?, List.find?_eq_some_iff_append]
  simp only [decide_eq_true_eq, Bool.not_eq_true', decide_eq_false_iff_not, IsFirst]
  constructor
  · rintro ⟨hf, before, after, hsplit, hbefore⟩
    exact ⟨before, after, hsplit, hf, hbefore⟩
  · rintro ⟨before, after, hsplit, hf, hbefore⟩
    exact ⟨hf, before, after, hsplit, hbefore⟩

/-- Two things are wrong with this name; it is refused for the first. -/
example : Declaration.nameFault? "2nd name" = some .badStart := by decide

theorem WellFormed.not_marks {s : String} (h : WellFormed s) : ∀ f ∈ faults s, ¬Marks s f := by
  intro f hf
  simp only [faults, List.mem_cons, List.not_mem_nil, or_false] at hf
  rcases hf with rfl | rfl | rfl | rfl | rfl
  · rintro rfl
    exact absurd h.nonempty (by decide)
  · rintro ⟨-, hlong⟩
    rw [utf8ByteSize_of_parts h.parts] at hlong
    exact absurd h.short (by omega)
  · obtain ⟨c, cs, hcs⟩ : ∃ c cs, s.toList = c :: cs := by
      refine List.exists_cons_of_length_pos ?_
      rw [String.length_toList]
      exact h.nonempty
    have hc : c ∈ s.toList.head? := by rw [hcs, List.head?_cons, Option.mem_some]
    exact not_not.2 ⟨c, hc, h.parts c (List.mem_of_mem_head? hc), h.start c hc⟩
  · rintro ⟨c, hc, hpart⟩
    exact hpart (h.parts c hc)
  · rintro ⟨w, hw, hs⟩
    exact h.free w hw hs

theorem WellFormed.of_not_marks {s : String} (h : ∀ f ∈ faults s, ¬Marks s f) : WellFormed s := by
  have hempty : s ≠ "" := h .empty (by simp [faults])
  have hshort : ¬(s.utf8ByteSize = s.utf8ByteSize ∧ 63 < s.utf8ByteSize) := h (.tooLong _) (by simp [faults])
  obtain ⟨c, hc, -, hdigit⟩ := not_not.1 (h .badStart (by simp [faults]))
  have hparts : ∀ c ∈ s.toList, PartOfName c := fun c hc =>
    not_not.1 fun hpart => h .badCharacter (by simp [faults]) ⟨c, hc, hpart⟩
  have hfree : ¬∃ w ∈ reservedWords, SameWord s w := h .reserved (by simp [faults])
  refine ⟨?_, ?_, hparts, fun d hd => ?_, fun w hw hs => hfree ⟨w, hw, hs⟩⟩
  · rw [Nat.one_le_iff_ne_zero, Ne, String.length_eq_zero_iff]
    exact hempty
  · rw [← utf8ByteSize_of_parts hparts]
    omega
  · rwa [Option.mem_unique hd hc]

theorem nameFault?_eq_none_iff {s : String} : Declaration.nameFault? s = none ↔ WellFormed s := by
  classical
  rw [nameFault?_eq_find?, List.find?_eq_none]
  simp only [decide_eq_true_eq]
  exact ⟨WellFormed.of_not_marks, WellFormed.not_marks⟩

/-! ## Names in a text -/

open Token in
/-- No scan of a text ends inside of the name or goes on over its end. -/
structure StaysWhole (s : String) : Prop where
  /-- Between a blank or a mark on either side, the name is one word of a statement. -/
  word : ∀ before after, (before = "" ∨ closes before) → (after = "" ∨ opens after) →
    lex (before ++ s ++ after) = lex before ++ .word s :: lex after
  /-- The same holds of any scan for words that takes letters, digits and underscores, whatever else it takes. -/
  scan : ∀ takes : Char → Bool, (∀ c, PartOfName c → takes c) → ∀ after : List Char, (∀ c ∈ after.head?, ¬takes c) →
    (s.toList ++ after).takeWhile takes = s.toList

theorem WellFormed.isWord {s : String} (h : WellFormed s) : Token.IsWord s where
  nonempty := by
    rintro rfl
    exact absurd h.nonempty (by decide)
  parts c hc := isPart_iff.2 (h.parts c hc)

open Token in
theorem WellFormed.staysWhole {s : String} (h : WellFormed s) : StaysWhole s where
  word before after hbefore hafter := by
    have hend : lex (s ++ after) = .word s :: lex after := by
      rcases hafter with rfl | hopens
      · rw [String.append_empty, lex_word h.isWord]
        rfl
      · rw [lex_append_of_opens s hopens, lex_word h.isWord, List.singleton_append]
    rw [String.append_assoc, ← hend]
    rcases hbefore with rfl | hcloses
    · rw [String.empty_append]
      rfl
    · exact lex_append_of_closes hcloses _
  scan takes htakes after hafter := by
    rw [List.takeWhile_append_of_pos fun c hc => htakes c (h.parts c hc)]
    cases after with
    | nil => rw [List.takeWhile_nil, List.append_nil]
    | cons c cs => rw [List.takeWhile_cons_of_neg (hafter c rfl), List.append_nil]

/-! ## Both checks -/

/-- What the check at a declaration and the check at a table say of a name. -/
structure Checked (s : String) : Prop where
  /-- They refuse the same names, for the same fault. -/
  refused : ∀ f, Declaration.nameFault? s = some f ↔ validateName s = .error (.name s f)
  accepted : Declaration.nameFault? s = none ↔ validateName s = .ok s
  /-- The fault that both give is the first in the order of `faults`. -/
  first : ∀ f, Declaration.nameFault? s = some f ↔ IsFirst s f
  wellFormed : Declaration.nameFault? s = none ↔ WellFormed s
  whole : Declaration.nameFault? s = none → StaysWhole s

theorem names_checked (s : String) : Checked s where
  refused f := by
    rw [Declaration.nameFault?_eq, validateName]
    cases fault? s <;> simp
  accepted := by
    rw [Declaration.nameFault?_eq, validateName]
    cases fault? s <;> simp
  first _ := nameFault?_eq_some_iff
  wellFormed := nameFault?_eq_none_iff
  whole h := (nameFault?_eq_none_iff.1 h).staysWhole

end Identifier

end TypedStorage
