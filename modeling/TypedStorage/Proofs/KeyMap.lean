/-
What a map answers, name by name: after an insertion (`get?_insert`), after an erasure (`get?_erase`), and that
the answers are all there is to a map (`ext_get?`). A sorted list of entries is its own sorted form.
-/
import Mathlib.Data.List.Dedup
import Mathlib.Data.List.Nodup
import TypedStorage.KeyMap

namespace TypedStorage

variable {α : Type}

/-! ## Entries -/

theorem lookup_insertKey_self (k : String) (v : α) (entries : List (String × α)) :
    (insertKey k v entries).lookup k = some v := by
  induction entries with
  | nil => simp [insertKey]
  | cons e rest ih =>
    obtain ⟨k', v'⟩ := e
    simp only [insertKey]
    split
    · simp
    · split
      · simp
      · next hne =>
        rw [List.lookup_cons, beq_eq_false_iff_ne.2 hne]
        exact ih

theorem lookup_insertKey_other {k k' : String} (hne : k' ≠ k) (v : α) (entries : List (String × α)) :
    (insertKey k v entries).lookup k' = entries.lookup k' := by
  have hb : (k' == k) = false := beq_eq_false_iff_ne.2 hne
  induction entries with
  | nil => simp [insertKey, List.lookup_cons, hb]
  | cons e rest ih =>
    obtain ⟨k'', v''⟩ := e
    simp only [insertKey]
    split
    · rw [List.lookup_cons, hb]
    · split
      · next he =>
        subst he
        rw [List.lookup_cons, List.lookup_cons, hb]
      · rw [List.lookup_cons, List.lookup_cons, ih]

/-- Each entry is found where no key is given twice. -/
theorem lookup_of_mem {l : List (String × α)} (hn : (l.map Prod.fst).Nodup) {k : String} {v : α}
    (h : (k, v) ∈ l) : l.lookup k = some v := by
  induction l with
  | nil => cases h
  | cons p l ih =>
    obtain ⟨k', v'⟩ := p
    rw [List.map_cons, List.nodup_cons] at hn
    rcases List.mem_cons.1 h with he | hmem
    · cases he
      exact List.lookup_cons_self
    · have hne : k ≠ k' := fun he => hn.1 (List.mem_map.2 ⟨_, hmem, he⟩)
      rw [List.lookup_cons, beq_eq_false_iff_ne.2 hne]
      exact ih hn.2 hmem

/-- What is found is an entry. -/
theorem mem_of_lookup {l : List (String × α)} {k : String} {v : α} (h : l.lookup k = some v) : (k, v) ∈ l := by
  obtain ⟨before, after, rfl, -⟩ := List.lookup_eq_some_iff.1 h
  exact List.mem_append_right _ List.mem_cons_self

/-- A key below all of a sorted list is not in it. -/
theorem lookup_eq_none_of_lt {k : String} {entries : List (String × α)} (h : ∀ p ∈ entries, k < p.1) :
    entries.lookup k = none := by
  rw [List.lookup_eq_none_iff]
  intro p hp
  rw [bne_iff_ne]
  rintro rfl
  exact String.lt_irrefl _ (h p hp)

theorem SortedKeys.of_cons {p : String × α} {entries : List (String × α)} (h : SortedKeys (p :: entries)) :
    (∀ q ∈ entries, p.1 < q.1) ∧ SortedKeys entries := by
  simp only [SortedKeys, List.map_cons, List.pairwise_cons, List.mem_map, forall_exists_index, and_imp,
    forall_apply_eq_imp_iff₂] at h
  exact h

theorem SortedKeys.nodup {entries : List (String × α)} (h : SortedKeys entries) : (entries.map Prod.fst).Nodup := by
  refine List.Pairwise.imp ?_ h
  rintro a _ h rfl
  exact String.lt_irrefl a h

/-- In a sorted list each entry is found under its key. -/
theorem SortedKeys.lookup_eq_some_iff {entries : List (String × α)} (h : SortedKeys entries) {k : String} {v : α} :
    entries.lookup k = some v ↔ (k, v) ∈ entries :=
  ⟨mem_of_lookup, lookup_of_mem h.nodup⟩

/-- A sorted list is what its lookups are. -/
theorem SortedKeys.eq_of_lookup {l m : List (String × α)} (hl : SortedKeys l) (hm : SortedKeys m)
    (h : ∀ k, l.lookup k = m.lookup k) : l = m := by
  induction l generalizing m with
  | nil =>
    cases m with
    | nil => rfl
    | cons q m =>
      obtain ⟨k, v⟩ := q
      simpa using h k
  | cons p l ih =>
    obtain ⟨hpl, hl'⟩ := hl.of_cons
    cases m with
    | nil => simpa using h p.1
    | cons q m =>
      obtain ⟨hqm, hm'⟩ := hm.of_cons
      have hp : (p.1, p.2) ∈ q :: m := by
        rw [← hm.lookup_eq_some_iff, ← h]
        exact hl.lookup_eq_some_iff.2 List.mem_cons_self
      have hq : (q.1, q.2) ∈ p :: l := by
        rw [← hl.lookup_eq_some_iff, h]
        exact hm.lookup_eq_some_iff.2 List.mem_cons_self
      have hpq : p = q := by
        rcases List.mem_cons.1 hp with he | hp
        · exact he
        · rcases List.mem_cons.1 hq with he | hq
          · exact he.symm
          · exact absurd (String.lt_trans (hqm _ hp) (hpl _ hq)) (String.lt_irrefl _)
      subst hpq
      rw [ih hl' hm' fun k => ?_]
      by_cases hk : k = p.1
      · subst hk
        rw [lookup_eq_none_of_lt hpl, lookup_eq_none_of_lt hqm]
      · have := h k
        rwa [List.lookup_cons, List.lookup_cons, beq_eq_false_iff_ne.2 hk] at this

theorem insertKey_eq_append {k : String} {entries : List (String × α)} (h : ∀ p ∈ entries, p.1 < k) (v : α) :
    insertKey k v entries = entries ++ [(k, v)] := by
  induction entries with
  | nil => rfl
  | cons p entries ih =>
    have hlt := h p List.mem_cons_self
    rw [insertKey, if_neg (fun hk => String.lt_irrefl k (String.lt_trans hk hlt)),
      if_neg (fun hk => String.lt_irrefl k (by rwa [← hk] at hlt)), ih fun q hq => h q (List.mem_cons_of_mem _ hq)]
    rfl

theorem foldl_insertKey_eq_append {entries acc : List (String × α)} (h : SortedKeys (acc ++ entries)) :
    entries.foldl (fun acc p => insertKey p.1 p.2 acc) acc = acc ++ entries := by
  induction entries generalizing acc with
  | nil => simp
  | cons p entries ih =>
    have hlt : ∀ q ∈ acc, q.1 < p.1 := by
      intro q hq
      rw [SortedKeys, List.map_append, List.pairwise_append] at h
      exact h.2.2 _ (List.mem_map_of_mem hq) _ (by simp)
    rw [List.foldl_cons, insertKey_eq_append hlt, ih (by rwa [List.append_assoc])]
    simp

/-- What is sorted stays as it is. -/
theorem SortedKeys.sortEntries_eq {entries : List (String × α)} (h : SortedKeys entries) : sortEntries entries = entries :=
  @foldl_insertKey_eq_append _ entries [] h

/-! ## Maps -/

namespace KeyMap

@[simp] theorem get?_insert_self (m : KeyMap α) (k : String) (v : α) : (m.insert k v).get? k = some v :=
  lookup_insertKey_self k v m.entries

theorem get?_insert_other (m : KeyMap α) {k k' : String} (hne : k' ≠ k) (v : α) : (m.insert k v).get? k' = m.get? k' :=
  lookup_insertKey_other hne v m.entries

theorem get?_insert (m : KeyMap α) (k k' : String) (v : α) :
    (m.insert k v).get? k' = if k' = k then some v else m.get? k' := by
  split
  · next h => rw [h, get?_insert_self]
  · next h => exact m.get?_insert_other h v

theorem get?_filterKeys (m : KeyMap α) (keep : String → Bool) (k : String) :
    (m.filterKeys keep).get? k = if keep k then m.get? k else none := by
  unfold get? filterKeys
  dsimp only
  induction m.entries with
  | nil => simp
  | cons p entries ih =>
    obtain ⟨k', v⟩ := p
    by_cases hk : k = k'
    · subst hk
      by_cases hkeep : keep k
      · simp [hkeep]
      · simp only [Bool.not_eq_true] at hkeep
        simpa [List.filter_cons, hkeep] using ih
    · have hb : (k == k') = false := beq_eq_false_iff_ne.2 hk
      rw [List.filter_cons]
      split
      · rw [List.lookup_cons, List.lookup_cons, hb]
        exact ih
      · rw [List.lookup_cons, hb]
        exact ih

theorem get?_erase (m : KeyMap α) (k k' : String) : (m.erase k).get? k' = if k' = k then none else m.get? k' := by
  rw [erase, get?_filterKeys]
  by_cases h : k' = k <;> simp [h]

/-- Maps with the same answers are one map. -/
theorem ext_get? {m n : KeyMap α} (h : ∀ k, m.get? k = n.get? k) : m = n :=
  ext (m.sorted.eq_of_lookup n.sorted h)

theorem get?_eq_some_iff {m : KeyMap α} {k : String} {v : α} : m.get? k = some v ↔ (k, v) ∈ m.entries :=
  m.sorted.lookup_eq_some_iff

theorem get?_ofPairs (pairs : List (String × α)) (k : String) : (ofPairs pairs).get? k = pairs.reverse.lookup k := by
  have go : ∀ rev : List (String × α), (sortEntries rev.reverse).lookup k = rev.lookup k := by
    intro rev
    induction rev with
    | nil => rfl
    | cons p rev ih =>
      rw [List.reverse_cons, sortEntries, List.foldl_append, ← sortEntries, List.foldl_cons, List.foldl_nil]
      by_cases hk : k = p.1
      · rw [hk, lookup_insertKey_self, List.lookup_cons_self]
      · rw [lookup_insertKey_other hk, ih, List.lookup_cons, beq_eq_false_iff_ne.2 hk]
  have h := go pairs.reverse
  rwa [List.reverse_reverse] at h

theorem get?_ofPairs_of_mem {pairs : List (String × α)} (hn : (pairs.map Prod.fst).Nodup) {k : String} {v : α}
    (h : (k, v) ∈ pairs) : (ofPairs pairs).get? k = some v := by
  rw [get?_ofPairs]
  exact lookup_of_mem (by rwa [List.map_reverse, List.nodup_reverse]) (List.mem_reverse.2 h)

theorem mem_of_get?_ofPairs {pairs : List (String × α)} {k : String} {v : α} (h : (ofPairs pairs).get? k = some v) :
    (k, v) ∈ pairs := by
  rw [get?_ofPairs] at h
  exact List.mem_reverse.1 (mem_of_lookup h)

/-- A map that is a function on these keys. -/
theorem get?_ofPairs_map (f : String → α) {keys : List String} {k : String} (h : k ∈ keys) :
    (ofPairs (keys.map fun k => (k, f k))).get? k = some (f k) := by
  cases hv : (ofPairs (keys.map fun k => (k, f k))).get? k with
  | none =>
    rw [get?_ofPairs, List.lookup_eq_none_iff] at hv
    have := hv (k, f k) (List.mem_reverse.2 (List.mem_map_of_mem h))
    simp at this
  | some v =>
    obtain ⟨k', -, he⟩ := List.mem_map.1 (mem_of_get?_ofPairs hv)
    cases he
    rfl

theorem isEmpty_iff {m : KeyMap α} : m.isEmpty = true ↔ m.keys = [] := by
  rw [isEmpty, List.isEmpty_iff, keys, List.map_eq_nil_iff]

theorem isEmpty_eq_false_iff {m : KeyMap α} : m.isEmpty = false ↔ m.keys ≠ [] := by
  rw [Ne, ← isEmpty_iff, Bool.not_eq_true]

theorem keys_erase (m : KeyMap α) (k : String) : (m.erase k).keys = m.keys.filter (· != k) := by
  rw [keys, keys, List.filter_map]
  rfl

theorem mem_keys_iff {m : KeyMap α} {k : String} : k ∈ m.keys ↔ (m.get? k).isSome := by
  simp only [keys, List.mem_map, Prod.exists, exists_and_right, exists_eq_right, Option.isSome_iff_exists,
    get?_eq_some_iff]

theorem mem_keys_erase {m : KeyMap α} {k k' : String} : k' ∈ (m.erase k).keys ↔ k' ≠ k ∧ k' ∈ m.keys := by
  rw [mem_keys_iff, mem_keys_iff, get?_erase]
  by_cases h : k' = k <;> simp [h]

theorem mem_keys_insert {m : KeyMap α} {k k' : String} {v : α} : k' ∈ (m.insert k v).keys ↔ k' = k ∨ k' ∈ m.keys := by
  rw [mem_keys_iff, mem_keys_iff, get?_insert]
  by_cases h : k' = k <;> simp [h]

/-- A map that is made of pairs has the keys of all of them. -/
theorem mem_keys_ofPairs {pairs : List (String × α)} {k : String} :
    k ∈ (ofPairs pairs).keys ↔ k ∈ pairs.map Prod.fst := by
  rw [mem_keys_iff]
  constructor
  · intro h
    obtain ⟨v, hv⟩ := Option.isSome_iff_exists.1 h
    exact List.mem_map.2 ⟨_, mem_of_get?_ofPairs hv, rfl⟩
  · intro h
    obtain ⟨p, hp, rfl⟩ := List.mem_map.1 h
    rw [Option.isSome_iff_ne_none, get?_ofPairs, Ne, List.lookup_eq_none_iff]
    intro hnone
    simpa using hnone p (List.mem_reverse.2 hp)

theorem mem_keys_ofPairs_map {f : String → α} {keys : List String} {k : String} :
    k ∈ (ofPairs (keys.map fun k => (k, f k))).keys ↔ k ∈ keys := by
  simp [mem_keys_ofPairs]

theorem nodup_keys (m : KeyMap α) : m.keys.Nodup := m.sorted.nodup

/-- Of pairs with one key a map has one. -/
theorem length_keys_ofPairs (pairs : List (String × α)) :
    (ofPairs pairs).keys.length = (pairs.map Prod.fst).dedup.length := by
  have hperm : (ofPairs pairs).keys.Perm (pairs.map Prod.fst).dedup :=
    (List.perm_ext_iff_of_nodup (nodup_keys _) (List.nodup_dedup _)).2 fun k => by
      rw [mem_keys_ofPairs, List.mem_dedup]
  exact hperm.length_eq

end KeyMap

end TypedStorage
