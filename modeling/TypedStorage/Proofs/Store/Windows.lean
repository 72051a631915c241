/-
What the clause for a limit and an offset means to a dialect whose integers have 64 bits and a sign. The clause is taken
word by word: a negative limit is no limit, a negative offset skips nothing, and a numeral out of range stands for nothing
that could be counted. So the clause denotes the window that it was written for exactly when the limit and the offset are
below 2^63 (`Clause.limit_denotes`); larger ones are written all the same.
-/
import TypedStorage.Proofs.Files.Path
import TypedStorage.Proofs.Query.Spelling
import TypedStorage.Proofs.Store.First

namespace TypedStorage

open Text

/-! ## Reading the clause -/

/-- A clause with the numerals that stand in it. -/
structure LimitClause where
  limit : Option Int
  offset : Option Int
  deriving DecidableEq

namespace LimitClause

def limitWord : List Char := "LIMIT".toList

def offsetWord : List Char := "OFFSET".toList

def ofWords? : List (List Char) → Option LimitClause
  | [[]] => some ⟨none, none⟩
  | [head, l] => do
    guard (head = limitWord)
    return ⟨some (← readInt? l), none⟩
  | [head, l, mark, o] => do
    guard (head = limitWord ∧ mark = offsetWord)
    return ⟨some (← readInt? l), some (← readInt? o)⟩
  | _ => none

/-- What a text says, with a blank between any two words. -/
def ofSql? (s : String) : Option LimitClause := ofWords? (pieces ' ' s.toList)

def numerals (c : LimitClause) : List Int := c.limit.toList ++ c.offset.toList

/-- The integers with 64 bits and a sign. -/
def InRange (i : Int) : Prop := -0x8000000000000000 ≤ i ∧ i < 0x8000000000000000

instance (i : Int) : Decidable (InRange i) := inferInstanceAs (Decidable (_ ∧ _))

/-- The rows that the clause leaves, if all its numerals are in range. -/
def rows? {α : Type} (c : LimitClause) (rows : List α) : Option (List α) :=
  if ∀ i ∈ c.numerals, InRange i then
    let rest := rows.drop (c.offset.getD 0).toNat
    match c.limit with
    | some n => some (if n < 0 then rest else rest.take n.toNat)
    | none => some rest
  else none

/-- The numerals for a limit and an offset; an offset by itself has a limit of −1 in front of it. -/
def written (limit offset : Option UInt64) : LimitClause where
  limit := match limit, offset with
    | some l, _ => some l.toNat
    | none, some _ => some (-1)
    | none, none => none
  offset := offset.map fun o => (o.toNat : Int)

/-! ## What is written -/

theorem pieces_word {word : List Char} (h : ' ' ∉ word) (cs : List Char) :
    pieces ' ' (word ++ ' ' :: cs) = word :: pieces ' ' cs := by
  rw [pieces_append_sep, pieces_of_not_mem h, List.singleton_append]

theorem blank_not_mem_natDigits (n : Nat) : ' ' ∉ natDigits n := fun h => by
  have := isDigit_of_mem_natDigits h
  simp at this

/-- The clause is read as it was written, whatever its numerals are. -/
theorem ofSql?_limit (limit offset : Option UInt64) :
    ofSql? (Clause.limit limit offset) = some (written limit offset) := by
  have hlimit : ' ' ∉ limitWord := by decide
  have hoffset : ' ' ∉ offsetWord := by decide
  have hdigits := blank_not_mem_natDigits
  have hunlimited : ' ' ∉ intDigits (-1) := by decide
  unfold ofSql?
  cases limit with
  | none =>
    cases offset with
    | none => rfl
    | some o =>
      have hfixed : "LIMIT -1 OFFSET ".toList =
          limitWord ++ ' ' :: (intDigits (-1) ++ ' ' :: (offsetWord ++ [' '])) := by decide
      simp only [Clause.limit, String.toList_append, toList_number, hfixed, List.append_assoc, List.cons_append,
        List.nil_append, pieces_word hlimit, pieces_word hunlimited, pieces_word hoffset, pieces_of_not_mem (hdigits _)]
      simp [ofWords?, written, readInt?_intDigits, readInt?_natDigits]
  | some l =>
    cases offset with
    | none =>
      have hfixed : "LIMIT ".toList = limitWord ++ [' '] := by decide
      simp only [Clause.limit, String.toList_append, toList_number, hfixed, List.append_assoc, List.singleton_append,
        pieces_word hlimit, pieces_of_not_mem (hdigits _)]
      simp [ofWords?, written, readInt?_natDigits]
    | some o =>
      have hfixed : "LIMIT ".toList = limitWord ++ [' '] := by decide
      have hbetween : " OFFSET ".toList = ' ' :: (offsetWord ++ [' ']) := by decide
      simp only [Clause.limit, String.toList_append, toList_number, hfixed, hbetween, List.append_assoc, List.cons_append,
        List.nil_append, pieces_word hlimit, pieces_word (hdigits _), pieces_word hoffset, pieces_of_not_mem (hdigits _)]
      simp [ofWords?, written, readInt?_natDigits]

theorem inRange_natCast_iff (n : UInt64) : InRange n.toNat ↔ Sql.IsInteger n := by
  unfold InRange Sql.IsInteger
  omega

/-- What is written is in range where the limit and the offset are. -/
theorem numerals_written_iff (limit offset : Option UInt64) :
    (∀ i ∈ (written limit offset).numerals, InRange i) ↔ TakesBoth Sql.IsInteger limit offset := by
  have hunlimited : InRange (-1) := by decide
  cases limit <;> cases offset <;> simp [numerals, written, TakesBoth, inRange_natCast_iff, hunlimited]

instance (limit offset : Option UInt64) : Decidable (TakesBoth Sql.IsInteger limit offset) :=
  decidable_of_iff _ (numerals_written_iff limit offset)

/-- The rows that a clause in range leaves are those that were asked for. -/
theorem rows?_written {α : Type} (limit offset : Option UInt64) (rows : List α) :
    (written limit offset).rows? rows =
      if TakesBoth Sql.IsInteger limit offset then some (Sql.window limit offset rows) else none := by
  have hrange := numerals_written_iff limit offset
  by_cases htakes : TakesBoth Sql.IsInteger limit offset
  · rw [rows?, if_pos (hrange.2 htakes), if_pos htakes]
    cases limit <;> cases offset <;> simp [written, Sql.window]
  · rw [rows?, if_neg (hrange.not.2 htakes), if_neg htakes]

end LimitClause

/--
**The clause denotes the window that it was written for exactly when the limit and the offset are below 2^63**: every
numeral in it is in range just then, and what it leaves of any rows is what comes after as many rows as the offset says,
and of that no more than the limit says. Otherwise it denotes nothing.
-/
theorem Clause.limit_denotes (limit offset : Option UInt64) :
    ∃ c, LimitClause.ofSql? (Clause.limit limit offset) = some c ∧
      ((∀ i ∈ c.numerals, LimitClause.InRange i) ↔ TakesBoth Sql.IsInteger limit offset) ∧
      ∀ {α : Type} (rows : List α), c.rows? rows =
        if TakesBoth Sql.IsInteger limit offset then some (Sql.window limit offset rows) else none :=
  ⟨_, LimitClause.ofSql?_limit limit offset, LimitClause.numerals_written_iff limit offset,
    fun rows => LimitClause.rows?_written limit offset rows⟩

/-- The greatest limit there is, which is no limit for any table, is written as a numeral that is out of range. -/
theorem Clause.limit_greatest :
    ¬(∀ limit offset c, LimitClause.ofSql? (Clause.limit limit offset) = some c →
      ∀ i ∈ c.numerals, LimitClause.InRange i) ∧
    Clause.limit (some 18446744073709551615) none = "LIMIT 18446744073709551615" ∧
    LimitClause.rows? ⟨some 18446744073709551615, none⟩ [()] = none := by
  refine ⟨fun h => ?_, by decide +kernel, rfl⟩
  have hread : LimitClause.ofSql? (Clause.limit (some 18446744073709551615) none) =
      some ⟨some 18446744073709551615, none⟩ := by decide +kernel
  have hrange := h _ _ _ hread 18446744073709551615 (by decide)
  exact absurd hrange (by decide)

end TypedStorage
