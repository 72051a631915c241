/-
Two texts with a colon between them. Where neither text is kept from holding a colon itself, the whole does not tell
which of its colons is the one between; `colon_eq_iff` says what it does tell.
-/
namespace TypedStorage

/-- Where one text before a colon begins the other, they are the same or go on after a colon. -/
theorem colon_of_append {s t s' t' : String} {cs : List Char} (hs : s'.toList = s.toList ++ cs)
    (ht : ':' :: t.toList = cs ++ ':' :: t'.toList) :
    (s = s' ∧ t = t') ∨ ∃ m, s' = s ++ ":" ++ m ∧ t = m ++ ":" ++ t' := by
  cases cs with
  | nil =>
    left
    simp only [List.append_nil, List.nil_append, List.cons.injEq, true_and] at hs ht
    exact ⟨(String.toList_inj.1 hs).symm, String.toList_inj.1 ht⟩
  | cons c cs =>
    right
    simp only [List.cons_append, List.cons.injEq] at ht
    refine ⟨String.ofList cs, ?_, ?_⟩ <;> rw [← String.toList_inj]
    · simp [hs, ← ht.1]
    · simp [ht.2]

theorem colon_eq_iff {s t s' t' : String} : s ++ ":" ++ t = s' ++ ":" ++ t' ↔
    (s = s' ∧ t = t') ∨ (∃ m, s' = s ++ ":" ++ m ∧ t = m ++ ":" ++ t') ∨ ∃ m, s = s' ++ ":" ++ m ∧ t' = m ++ ":" ++ t := by
  constructor
  · intro h
    have hlist : s.toList ++ ':' :: t.toList = s'.toList ++ ':' :: t'.toList := by
      simpa using congrArg String.toList h
    rcases List.append_eq_append_iff.1 hlist with ⟨cs, hs, ht⟩ | ⟨cs, hs, ht⟩
    · exact (colon_of_append hs ht).imp_right Or.inl
    · rcases colon_of_append hs ht with ⟨rfl, rfl⟩ | hm
      · exact .inl ⟨rfl, rfl⟩
      · exact .inr (.inr hm)
  · rintro (⟨rfl, rfl⟩ | ⟨m, rfl, rfl⟩ | ⟨m, rfl, rfl⟩) <;> simp [String.append_assoc]

end TypedStorage
