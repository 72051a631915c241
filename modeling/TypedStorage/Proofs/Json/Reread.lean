/-
Documents that have been read before. A document that some text was read as is nested no deeper than the reader
follows (`depth_le_of_ofText?`), so its own text is read, and it is read as the same document exactly when each of its
doubles is found again in the text of it (`ofText?_text_eq_some_iff`).
-/
import TypedStorage.Proofs.Json.Order

namespace TypedStorage.Json

/-! ## Nesting of what is read -/

theorem membersDepth_sortEntries_le (members : List (String × Json)) :
    membersDepth (sortEntries members) ≤ membersDepth members :=
  membersDepth_le_iff.2 fun p hp => membersDepth_le_iff.1 (le_refl (membersDepth members)) p (mem_sortEntries hp)

mutual

/-- The value of a source is not nested beyond the bound it was read with. -/
theorem depth_le_of_json?_eq_some : ∀ (x : Source) {budget : Nat} {j : Json}, Source.json? budget x = some j →
    j.depth ≤ budget
  | .null, _, _, h => by
    rw [Source.json?, Option.some.injEq] at h
    simp [← h, depth]
  | .bool b, _, _, h => by
    rw [Source.json?, Option.some.injEq] at h
    simp [← h, depth]
  | .number n, _, _, h => by
    rw [Source.json?, Option.map_eq_some_iff] at h
    obtain ⟨n, -, rfl⟩ := h
    simp [depth]
  | .string s, _, _, h => by
    rw [Source.json?, Option.map_eq_some_iff] at h
    obtain ⟨s, -, rfl⟩ := h
    simp [depth]
  | .array items, 0, _, h => by simp [Source.json?] at h
  | .array items, budget + 1, j, h => by
    rw [Source.json?, Option.map_eq_some_iff] at h
    obtain ⟨js, hjs, rfl⟩ := h
    rw [depth]
    exact Nat.succ_le_succ (itemsDepth_le_of_jsonItems?_eq_some items hjs)
  | .object members, 0, _, h => by simp [Source.json?] at h
  | .object members, budget + 1, j, h => by
    rw [Source.json?, Option.map_eq_some_iff] at h
    obtain ⟨ms, hms, rfl⟩ := h
    rw [ofMembers, depth]
    exact Nat.succ_le_succ
      ((membersDepth_sortEntries_le ms).trans (membersDepth_le_of_jsonMembers?_eq_some members hms))

theorem itemsDepth_le_of_jsonItems?_eq_some : ∀ (items : List Source) {budget : Nat} {js : List Json},
    Source.jsonItems? budget items = some js → itemsDepth js ≤ budget
  | [], _, _, h => by
    rw [Source.jsonItems?, Option.some.injEq] at h
    simp [← h, itemsDepth]
  | x :: items, budget, js, h => by
    simp only [Source.jsonItems?, Option.bind_eq_bind, Option.bind_eq_some_iff, Option.pure_def,
      Option.some.injEq] at h
    obtain ⟨j, hj, js, hjs, rfl⟩ := h
    exact max_le (depth_le_of_json?_eq_some x hj) (itemsDepth_le_of_jsonItems?_eq_some items hjs)

theorem membersDepth_le_of_jsonMembers?_eq_some : ∀ (members : List (Option String × Source)) {budget : Nat}
    {ms : List (String × Json)}, Source.jsonMembers? budget members = some ms → membersDepth ms ≤ budget
  | [], _, _, h => by
    rw [Source.jsonMembers?, Option.some.injEq] at h
    simp [← h, membersDepth]
  | (k, x) :: members, budget, ms, h => by
    simp only [Source.jsonMembers?, Option.bind_eq_bind, Option.bind_eq_some_iff, Option.pure_def,
      Option.some.injEq] at h
    obtain ⟨k, -, j, hj, ms, hms, rfl⟩ := h
    exact max_le (depth_le_of_json?_eq_some x hj) (membersDepth_le_of_jsonMembers?_eq_some members hms)

end

theorem json?_of_document? {budget : Nat} {x : Source} {d : Document} (h : Source.document? budget x = some d) :
    Source.json? budget x = some d.tree := by
  unfold Source.document? at h
  split at h
  · next j hj =>
    cases h
    exact hj
  · cases h

/-- **What a text is read as is not nested too deeply.** -/
theorem depth_le_of_ofText? {s : String} {d : Document} (h : Document.ofText? s = some d) :
    d.tree.depth ≤ Source.maxDepth := by
  obtain ⟨x, -, hx⟩ := Option.bind_eq_some_iff.1 h
  exact depth_le_of_json?_eq_some x (json?_of_document? hx)

/-! ## Values that are read as themselves -/

/-- The members of a value are read under the names they have, in their order. -/
theorem map_fst_of_jsonMembers?_readBack {members ms : List (String × Json)} {budget : Nat}
    (h : Source.jsonMembers? budget (readBackMembers members) = some ms) : ms.map Prod.fst = members.map Prod.fst := by
  induction members generalizing ms with
  | nil =>
    rw [readBackMembers, Source.jsonMembers?, Option.some.injEq] at h
    rw [← h]
  | cons m members ih =>
    simp only [readBackMembers, Source.jsonMembers?, Option.bind_eq_bind, Option.bind_some, Option.bind_eq_some_iff,
      Option.pure_def, Option.some.injEq] at h
    obtain ⟨j, -, ms, hms, rfl⟩ := h
    rw [List.map_cons, List.map_cons, ih hms]

mutual

/-- A value that is read as itself has only doubles that are read as themselves. -/
theorem doublesReadBack_of_json? : ∀ (j : Json) {budget : Nat}, j.Ordered →
    Source.json? budget (readBack j) = some j → j.DoublesReadBack
  | .null, _, _, _ => trivial
  | .bool b, _, _, _ => trivial
  | .number (.int i hi), _, _, _ => trivial
  | .number (.double x), _, _, h => by
    rw [readBack, Source.json?, Option.map_eq_some_iff] at h
    obtain ⟨n, hn, he⟩ := h
    cases he
    exact hn
  | .string s, _, _, _ => trivial
  | .array items, 0, _, h => by simp [readBack, Source.json?] at h
  | .array items, budget + 1, ho, h => by
    rw [readBack, Source.json?, Option.map_eq_some_iff] at h
    obtain ⟨js, hjs, he⟩ := h
    cases he
    exact itemDoublesReadBack_of_jsonItems? items ho hjs
  | .object members, 0, _, h => by simp [readBack, Source.json?] at h
  | .object members, budget + 1, ho, h => by
    rw [readBack, Source.json?, Option.map_eq_some_iff] at h
    obtain ⟨ms, hms, he⟩ := h
    -- the names are in order already, so nothing is sorted
    have hsorted : SortedKeys ms := by
      rw [SortedKeys, map_fst_of_jsonMembers?_readBack hms]
      exact ho.1
    rw [ofMembers, hsorted.sortEntries_eq] at he
    cases he
    exact memberDoublesReadBack_of_jsonMembers? members ho.2 hms

theorem itemDoublesReadBack_of_jsonItems? : ∀ (items : List Json) {budget : Nat}, OrderedItems items →
    Source.jsonItems? budget (readBackItems items) = some items → ItemDoublesReadBack items
  | [], _, _, _ => trivial
  | j :: items, budget, ho, h => by
    simp only [readBackItems, Source.jsonItems?, Option.bind_eq_bind, Option.bind_eq_some_iff, Option.pure_def,
      Option.some.injEq] at h
    obtain ⟨j', hj, items', hitems, he⟩ := h
    cases he
    exact ⟨doublesReadBack_of_json? j ho.1 hj, itemDoublesReadBack_of_jsonItems? items ho.2 hitems⟩

theorem memberDoublesReadBack_of_jsonMembers? : ∀ (members : List (String × Json)) {budget : Nat},
    OrderedMembers members → Source.jsonMembers? budget (readBackMembers members) = some members →
      MemberDoublesReadBack members
  | [], _, _, _ => trivial
  | (k, j) :: members, budget, ho, h => by
    simp only [readBackMembers, Source.jsonMembers?, Option.bind_eq_bind, Option.bind_some, Option.bind_eq_some_iff,
      Option.pure_def, Option.some.injEq] at h
    obtain ⟨j', hj, members', hmembers, he⟩ := h
    cases he
    exact ⟨doublesReadBack_of_json? j ho.1 hj, memberDoublesReadBack_of_jsonMembers? members ho.2 hmembers⟩

end

/-- **A document is read as itself exactly when its doubles are**, if the reader follows its nesting. -/
theorem ofText?_text_eq_some_iff {d : Document} (hd : d.tree.depth ≤ Source.maxDepth) :
    Document.ofText? d.text = some d ↔ d.tree.DoublesReadBack := by
  refine ⟨fun h => ?_, fun hx => ofText?_document hx hd⟩
  rw [Document.ofText?, Document.text, read?_text, Option.bind_some] at h
  exact doublesReadBack_of_json? d.tree d.ordered (json?_of_document? h)

end TypedStorage.Json
