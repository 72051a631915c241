/-
Trimming. A text that was trimmed stays as it is (`trimChars_trimChars`), and blanks around a text make no difference to
what is left of it (`trimChars_surrounded`), whatever blanks there are inside.
-/
import Mathlib.Data.List.DropRight
import TypedStorage.Text.Blank

namespace TypedStorage.Text

theorem trimStart_cons {c : Char} (hc : isBlank c = false) (cs : List Char) : trimStart (c :: cs) = c :: cs := by
  rw [trimStart, List.dropWhile_cons_of_neg (by simp [hc])]

theorem trimEnd_append {cs after : List Char} (h : ∀ c ∈ after, isBlank c) : trimEnd (cs ++ after) = trimEnd cs := by
  rw [trimEnd, List.reverse_append, List.dropWhile_append_of_pos fun c hc => h c (List.mem_reverse.1 hc), trimEnd]

theorem trimChars_of_ends (cs : List Char) {c d : Char} (hc : isBlank c = false) (hd : isBlank d = false) :
    trimChars (c :: (cs ++ [d])) = c :: (cs ++ [d]) := by
  rw [trimChars, trimStart_cons hc, trimEnd, List.reverse_cons, List.reverse_append, List.reverse_singleton,
    List.singleton_append, List.cons_append, List.dropWhile_cons_of_neg (by simp [hd])]
  simp

theorem trimChars_of_not_blank {cs : List Char} (h : ∀ c ∈ cs, isBlank c = false) : trimChars cs = cs := by
  have hstop : ∀ {ds : List Char}, (∀ d ∈ ds, isBlank d = false) → ds.dropWhile isBlank = ds := by
    intro ds hds
    cases ds with
    | nil => rfl
    | cons d ds => exact trimStart_cons (hds d List.mem_cons_self) ds
  rw [trimChars, trimStart, hstop h, trimEnd, hstop fun c hc => h c (List.mem_reverse.1 hc), List.reverse_reverse]

/-- What begins a text without blanks in front has none in front either. -/
theorem trimStart_of_prefix {cs ds : List Char} (h : ds <+: trimStart cs) : trimStart ds = ds := by
  cases ds with
  | nil => rfl
  | cons d ds =>
    obtain ⟨rest, hrest⟩ := h
    have hhead := List.head?_dropWhile_not isBlank cs
    rw [← trimStart, ← hrest] at hhead
    exact trimStart_cons (by simpa using hhead) ds

/-- A text that was trimmed stays as it is. -/
theorem trimChars_trimChars (cs : List Char) : trimChars (trimChars cs) = trimChars cs := by
  have hstart : trimStart (trimChars cs) = trimChars cs := trimStart_of_prefix (List.rdropWhile_prefix isBlank _)
  have hend : trimEnd (trimChars cs) = trimChars cs := List.rdropWhile_idempotent isBlank _
  rw [trimChars, hstart, hend]

theorem trim_trim (s : String) : trim (trim s) = trim s := by
  rw [trim, trim, String.toList_ofList, trimChars_trimChars]

/-- Blanks around a text make no difference. -/
theorem trimChars_surrounded {before after : List Char} (hbefore : ∀ c ∈ before, isBlank c)
    (hafter : ∀ c ∈ after, isBlank c) (cs : List Char) : trimChars (before ++ (cs ++ after)) = trimChars cs := by
  have hnone : after.dropWhile isBlank = [] := List.dropWhile_eq_nil_iff.2 hafter
  rw [trimChars, trimStart, List.dropWhile_append_of_pos hbefore, List.dropWhile_append]
  split
  · next h => rw [hnone, trimChars, trimStart, List.isEmpty_iff.1 h]
  · exact trimEnd_append hafter

end TypedStorage.Text
