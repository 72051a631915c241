/-
Text cut into pieces at every occurrence of a separator, and put together again.
-/
namespace TypedStorage.Text

/-- The pieces between the separators; an empty text is one empty piece. -/
def pieces (sep : Char) : List Char → List (List Char)
  | [] => [[]]
  | c :: cs =>
    match pieces sep cs with
    | [] => [[c]]
    | p :: ps => if c = sep then [] :: p :: ps else (c :: p) :: ps

theorem pieces_ne_nil (sep : Char) (cs : List Char) : pieces sep cs ≠ [] := by
  cases cs with
  | nil => simp [pieces]
  | cons c cs =>
    simp only [pieces]
    split
    · simp
    · split <;> simp

/-- No piece holds the separator. -/
theorem sep_not_mem_of_mem_pieces {sep : Char} {cs p : List Char} (h : p ∈ pieces sep cs) : sep ∉ p := by
  induction cs generalizing p with
  | nil =>
    simp only [pieces, List.mem_singleton] at h
    simp [h]
  | cons c cs ih =>
    simp only [pieces] at h
    split at h
    · next hp => exact absurd hp (pieces_ne_nil sep cs)
    · next q qs hp =>
      split at h
      · simp only [List.mem_cons] at h
        rcases h with rfl | rfl | h
        · simp
        · exact ih (by simp [hp])
        · exact ih (by simp [hp, h])
      · next hc =>
        simp only [List.mem_cons] at h
        rcases h with rfl | h
        · have := ih (p := q) (by simp [hp])
          simp only [List.mem_cons, not_or]
          exact ⟨fun e => hc e.symm, this⟩
        · exact ih (by simp [hp, h])

end TypedStorage.Text
