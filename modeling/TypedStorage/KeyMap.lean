/-
Finite maps from names to values, as lists in strictly increasing order of names. A map has one such list,
so two maps with the same entries are equal, and everything that is read off a map comes in the order of
its names. `insert` replaces the value of a name that is there.
-/
namespace TypedStorage

/-! ## Insertion into a sorted list -/

/-- Puts a value under a key, in front of the first greater key, or in the place of an equal one. -/
def insertKey {α : Type} (k : String) (v : α) : List (String × α) → List (String × α)
  | [] => [(k, v)]
  | (k', v') :: rest =>
    if k < k' then (k, v) :: (k', v') :: rest
    else if k = k' then (k, v) :: rest
    else (k', v') :: insertKey k v rest

/-- The keys strictly increase. -/
def SortedKeys {α : Type} (entries : List (String × α)) : Prop := (entries.map Prod.fst).Pairwise (· < ·)

theorem mem_insertKey {α : Type} {k : String} {v : α} {p : String × α} {entries : List (String × α)}
    (h : p ∈ insertKey k v entries) : p = (k, v) ∨ p ∈ entries := by
  induction entries with
  | nil => simpa [insertKey] using h
  | cons e rest ih =>
    obtain ⟨k', v'⟩ := e
    simp only [insertKey] at h
    split at h
    · simpa using h
    · split at h
      · rcases List.mem_cons.1 h with h | h
        · exact .inl h
        · exact .inr (List.mem_cons_of_mem _ h)
      · rcases List.mem_cons.1 h with h | h
        · exact .inr (h ▸ List.mem_cons_self)
        · rcases ih h with h | h
          · exact .inl h
          · exact .inr (List.mem_cons_of_mem _ h)

theorem sortedKeys_insertKey {α : Type} (k : String) (v : α) {entries : List (String × α)}
    (h : SortedKeys entries) : SortedKeys (insertKey k v entries) := by
  induction entries with
  | nil => simp [insertKey, SortedKeys]
  | cons e rest ih =>
    obtain ⟨k', v'⟩ := e
    simp only [SortedKeys, List.map_cons, List.pairwise_cons] at h
    simp only [insertKey]
    split
    · rename_i hk
      simp only [SortedKeys, List.map_cons, List.pairwise_cons]
      refine ⟨fun x hx => ?_, h⟩
      rcases List.mem_cons.1 hx with rfl | hx
      · exact hk
      · exact String.lt_trans hk (h.1 x hx)
    · split
      · rename_i hk
        subst hk
        simpa [SortedKeys] using h
      · rename_i hk hne
        simp only [SortedKeys, List.map_cons, List.pairwise_cons]
        refine ⟨fun x hx => ?_, ih h.2⟩
        obtain ⟨p, hp, rfl⟩ := List.mem_map.1 hx
        rcases mem_insertKey hp with rfl | hp
        · exact Std.lt_of_le_of_ne (String.not_lt.1 hk) (Ne.symm hne)
        · exact h.1 _ (List.mem_map_of_mem hp)

/-- The entries in order; of two under one key the later one stays. -/
def sortEntries {α : Type} (pairs : List (String × α)) : List (String × α) :=
  pairs.foldl (fun acc p => insertKey p.1 p.2 acc) []

theorem sortedKeys_foldl_insertKey {α : Type} (pairs : List (String × α)) {acc : List (String × α)}
    (h : SortedKeys acc) : SortedKeys (pairs.foldl (fun acc p => insertKey p.1 p.2 acc) acc) := by
  induction pairs generalizing acc with
  | nil => exact h
  | cons p pairs ih => exact ih (sortedKeys_insertKey p.1 p.2 h)

theorem sortedKeys_sortEntries {α : Type} (pairs : List (String × α)) : SortedKeys (sortEntries pairs) :=
  sortedKeys_foldl_insertKey pairs (by simp [SortedKeys])

/-! ## Maps -/

structure KeyMap (α : Type) where
  entries : List (String × α)
  sorted : SortedKeys entries

namespace KeyMap

variable {α : Type}

theorem ext {m n : KeyMap α} (h : m.entries = n.entries) : m = n := by
  cases m; cases n; simp_all

instance [DecidableEq α] : DecidableEq (KeyMap α) := fun m n =>
  if h : m.entries = n.entries then .isTrue (ext h) else .isFalse fun e => h (e ▸ rfl)

def empty : KeyMap α := ⟨[], by simp [SortedKeys]⟩

instance : Inhabited (KeyMap α) := ⟨empty⟩

def insert (m : KeyMap α) (k : String) (v : α) : KeyMap α :=
  ⟨insertKey k v m.entries, sortedKeys_insertKey k v m.sorted⟩

/-- The map of a list of pairs; the last value under a key counts. -/
def ofPairs (pairs : List (String × α)) : KeyMap α := ⟨sortEntries pairs, sortedKeys_sortEntries pairs⟩

def get? (m : KeyMap α) (k : String) : Option α := m.entries.lookup k

def contains (m : KeyMap α) (k : String) : Bool := (m.get? k).isSome

def keys (m : KeyMap α) : List String := m.entries.map Prod.fst

def values (m : KeyMap α) : List α := m.entries.map Prod.snd

def isEmpty (m : KeyMap α) : Bool := m.entries.isEmpty

/-- The entries whose key passes the test. -/
def filterKeys (m : KeyMap α) (keep : String → Bool) : KeyMap α :=
  ⟨m.entries.filter fun p => keep p.1, by
    have h := m.sorted
    unfold SortedKeys at *
    exact h.sublist ((List.filter_sublist).map Prod.fst)⟩

def erase (m : KeyMap α) (k : String) : KeyMap α := m.filterKeys (· != k)

end KeyMap

end TypedStorage
