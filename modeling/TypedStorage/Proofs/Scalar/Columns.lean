/-
What an engine makes of the values in its columns. A column has an affinity, and turns a value into the class that suits
it; a value that is compared with a column is turned into what the column holds, if it is like that. How numbers are read
and written is the engine's matter (`Sql.Columns`). What is said of texts holds of every engine that leaves a text alone
that is no number, and compares texts by their bytes (`Sql.Columns.KeepsTexts`); the one that the library runs on is such
an engine (`Engine.keepsTexts_columns`).
-/
import Mathlib.Data.List.TakeWhile
import Mathlib.Data.Option.Basic
import TypedStorage.Engine.Stored
import TypedStorage.Proofs.Scalar.Reader
import TypedStorage.Proofs.Text.Digits
import TypedStorage.Proofs.Text.Order

namespace TypedStorage

open Text Engine

/-! ## Columns of any engine -/

namespace Sql

structure Columns where
  /-- What a text stands for as the default of a column, if it is not refused. -/
  default? : String → Option Stored
  /-- What a column keeps of a value; a strict one refuses what it would not keep as it is declared. -/
  keep : Affinity → Stored → Stored
  /-- What a value is taken for when it is compared with what a column keeps. -/
  operand : Affinity → Stored → Stored
  compare : Stored → Stored → Ordering

/-- A character that may be part of a number as a text. -/
def isNumeralPart (c : Char) : Bool := c.isDigit || Stored.isSpace c || ['+', '-', '.', 'e', 'E'].contains c

/-- A text that is no number, whichever spellings of numbers there are. -/
def IsWord (s : String) : Prop := ∃ c ∈ s.toList, isNumeralPart c = false

/-- A text that is no number stays as it is, and texts are compared byte by byte. -/
structure Columns.KeepsTexts (columns : Columns) : Prop where
  keep : ∀ column {s}, IsWord s → columns.keep column (.text s) = .text s
  operand : ∀ column {s}, IsWord s → columns.operand column (.text s) = .text s
  less : ∀ s t, columns.compare (.text s) (.text t) = .lt ↔ utf8Bytes s < utf8Bytes t
  greater : ∀ s t, columns.compare (.text s) (.text t) = .gt ↔ utf8Bytes t < utf8Bytes s

/-! ## Numbers as texts -/

theorem isNumeralPart_of_isDigit {c : Char} (h : c.isDigit) : isNumeralPart c := by simp [isNumeralPart, h]

theorem isNumeralPart_of_readNat? {cs : List Char} (h : readNat? cs ≠ none) : ∀ c ∈ cs, isNumeralPart c := by
  unfold readNat? at h
  split at h
  · exact absurd rfl h
  · split at h
    · next hall => exact fun c hc => isNumeralPart_of_isDigit (List.all_eq_true.1 hall c hc)
    · exact absurd rfl h

theorem isNumeralPart_of_readInt? {cs : List Char} {i : Int} (h : readInt? cs = some i) : ∀ c ∈ cs, isNumeralPart c := by
  unfold readInt? at h
  split at h
  · exact List.forall_mem_cons.2 ⟨by decide, isNumeralPart_of_readNat? fun hn => by simp [hn] at h⟩
  · exact List.forall_mem_cons.2 ⟨by decide, isNumeralPart_of_readNat? fun hn => by simp [hn] at h⟩
  · exact isNumeralPart_of_readNat? fun hn => by simp [hn] at h

theorem isNumeralPart_of_readExponent? {cs : List Char} {i : Int} (h : Double.readExponent? cs = some i) :
    ∀ c ∈ cs, isNumeralPart c := by
  cases cs with
  | nil => nofun
  | cons c cs =>
    rw [Double.readExponent?] at h
    split at h
    · next hc =>
      refine List.forall_mem_cons.2 ⟨?_, isNumeralPart_of_readInt? h⟩
      rcases hc with rfl | rfl <;> decide
    · cases h

/-- The digits at the front are parts of a number, so it is for the rest to be. -/
theorem isNumeralPart_of_spanDigits {cs : List Char} (h : ∀ c ∈ (spanDigits cs).2, isNumeralPart c) :
    ∀ c ∈ cs, isNumeralPart c := by
  rw [← List.takeWhile_append_dropWhile (p := Char.isDigit) (l := cs), List.forall_mem_append]
  exact ⟨fun c hc => isNumeralPart_of_isDigit (List.mem_takeWhile_imp hc), h⟩

theorem isNumeralPart_of_readDecimal? {cs : List Char} {d : Decimal} (h : Double.readDecimal? cs = some d) :
    ∀ c ∈ cs, isNumeralPart c := by
  have hexponent : ∀ (word fraction rest : List Char), (do
      guard (word ≠ [] ∨ fraction ≠ [])
      let e ← Double.readExponent? rest
      return (⟨digitsValue (word ++ fraction), e - fraction.length⟩ : Decimal)) = some d →
        ∀ c ∈ rest, isNumeralPart c := by
    intro word fraction rest h
    obtain ⟨-, -, h⟩ := Option.bind_eq_some_iff.1 h
    obtain ⟨e, he, -⟩ := Option.bind_eq_some_iff.1 h
    exact isNumeralPart_of_readExponent? he
  refine isNumeralPart_of_spanDigits ?_
  unfold Double.readDecimal? at h
  dsimp only at h
  split at h
  · next heq =>
    rw [heq]
    exact List.forall_mem_cons.2 ⟨by decide, isNumeralPart_of_spanDigits (hexponent _ _ _ h)⟩
  · exact hexponent _ _ _ h

/-- What is cut off at the ends is blank. -/
theorem mem_trimmed_or_isSpace {cs : List Char} {c : Char} (hc : c ∈ cs) :
    c ∈ ((cs.dropWhile Stored.isSpace).reverse.dropWhile Stored.isSpace).reverse ∨ Stored.isSpace c := by
  have hdrop : ∀ {l : List Char}, c ∈ l → c ∈ l.dropWhile Stored.isSpace ∨ Stored.isSpace c := by
    intro l hl
    rw [← List.takeWhile_append_dropWhile (p := Stored.isSpace) (l := l), List.mem_append] at hl
    exact hl.symm.imp_right List.mem_takeWhile_imp
  rcases hdrop hc with hc | hspace
  · exact (hdrop (List.mem_reverse.2 hc)).imp_left List.mem_reverse.2
  · exact .inr hspace

end Sql

namespace Engine

open Sql

/-- A text is read as a number only if nothing else is in it. -/
theorem Stored.numberOfText?_eq_none {s : String} (h : IsWord s) : numberOfText? s = none := by
  obtain ⟨c, hc, hpart⟩ := h
  have hword : ∀ {cs : List Char}, c ∈ cs → ¬∀ c ∈ cs, isNumeralPart c := fun hc hall => by
    rw [hall c hc] at hpart
    cases hpart
  have htrimmed : c ∈ ((s.toList.dropWhile isSpace).reverse.dropWhile isSpace).reverse := by
    refine (mem_trimmed_or_isSpace hc).resolve_right fun hspace => ?_
    simp [isNumeralPart, hspace] at hpart
  unfold numberOfText?
  dsimp only
  generalize ((s.toList.dropWhile isSpace).reverse.dropWhile isSpace).reverse = cs at htrimmed ⊢
  have hint : readInt? cs = none := Option.eq_none_iff_forall_ne_some.2 fun i hi =>
    hword htrimmed (isNumeralPart_of_readInt? hi)
  have hdecimal : ∀ {ds : List Char}, c ∈ ds → Double.readDecimal? ds = none := fun hd =>
    Option.eq_none_iff_forall_ne_some.2 fun d h => hword hd (isNumeralPart_of_readDecimal? h)
  rw [hint]
  dsimp only
  split
  · rw [hdecimal]
    · rfl
    · refine (List.mem_cons.1 htrimmed).resolve_left ?_
      rintro rfl
      cases hpart
  · rw [hdecimal]
    · rfl
    · refine (List.mem_cons.1 htrimmed).resolve_left ?_
      rintro rfl
      cases hpart
  · rw [hdecimal htrimmed]
    rfl

theorem Stored.asNumber_text {s : String} (h : IsWord s) : asNumber (.text s) = .text s := by
  rw [asNumber, numberOfText?_eq_none h, Option.getD_none]

/-- The columns of the engine that the library runs on. -/
def columns : Columns := ⟨Literal.default?, Affinity.apply, Affinity.forComparison, Stored.compare⟩

theorem keepsTexts_columns : columns.KeepsTexts where
  keep column s h := by
    show column.apply (.text s) = .text s
    cases column with
    | unchanged => rfl
    | text => simp [Affinity.apply, Stored.asText, Stored.chars?]
    | numeric => exact Stored.asNumber_text h
    | real => rw [Affinity.apply, Stored.asNumber_text h]
  operand column s h := by
    show column.forComparison (.text s) = .text s
    cases column with
    | unchanged => rfl
    | text => simp [Affinity.forComparison, Stored.asText, Stored.chars?]
    | numeric | real => exact Stored.asNumber_text h
  less s t := by
    rw [utf8Bytes_lt_iff]
    exact compareOfLessAndEq_eq_lt
  greater s t := by
    have hlt : Ord.compare t s = .lt ↔ t < s := compareOfLessAndEq_eq_lt
    rw [utf8Bytes_lt_iff, ← hlt]
    show Ord.compare s t = .gt ↔ _
    exact Std.OrientedCmp.gt_iff_lt

end Engine

end TypedStorage
