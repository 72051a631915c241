/-
The contents of a store as a map from keys to records. A list enumerates a map if it has each record of the map
once (`Enumerates`), in whatever order; what is put into the map or taken out of it is then put into the list or
taken out of it, and how many records were found can be counted on the list.
-/
import Mathlib.Data.List.Dedup
import Mathlib.Data.List.Perm.Basic

namespace TypedStorage

/-- The record under each key. -/
abbrev Contents (κ α : Type) := κ → Option α

namespace Contents

variable {κ α : Type} (key : α → κ)

def empty : Contents κ α := fun _ => none

/-- The records have keys that are not in use, and each its own. -/
def Fresh (m : Contents κ α) (xs : List α) : Prop := (xs.map key).Nodup ∧ ∀ x ∈ xs, m (key x) = none

/-- The list has each record of the map once. -/
structure Enumerates (m : Contents κ α) (xs : List α) : Prop where
  nodup : (xs.map key).Nodup
  get_iff : ∀ k x, m k = some x ↔ x ∈ xs ∧ key x = k

section Changes

variable [DecidableEq κ]

/-- The contents with a record under its key, in the place of one that is there. -/
def put (m : Contents κ α) (x : α) : Contents κ α := fun k => if k = key x then some x else m k

def putAll (m : Contents κ α) (xs : List α) : Contents κ α := xs.foldl (put key) m

def removeAll (m : Contents κ α) (ks : List κ) : Contents κ α := fun k => if k ∈ ks then none else m k

/-- How many records there are under these keys. -/
def countOf (m : Contents κ α) (ks : List κ) : Nat := (ks.dedup.filter fun k => (m k).isSome).length

/-- The records with one in the place of those that have its key. -/
def replaceIn (x : α) (xs : List α) : List α := xs.map fun y => if key y = key x then x else y

end Changes

variable {key} {m : Contents κ α} {xs : List α}

theorem map_key_replaceIn [DecidableEq κ] (x : α) (xs : List α) : (replaceIn key x xs).map key = xs.map key := by
  rw [replaceIn, List.map_map]
  refine List.map_congr_left fun y _ => ?_
  rw [Function.comp_apply]
  split
  · next he => exact he.symm
  · rfl

namespace Enumerates

theorem empty : Enumerates key (empty : Contents κ α) [] where
  nodup := List.nodup_nil
  get_iff := by simp [Contents.empty]

variable (h : Enumerates key m xs)

include h

/-! ## What is there -/

theorem get_key {x : α} (hx : x ∈ xs) : m (key x) = some x := (h.get_iff _ _).2 ⟨hx, rfl⟩

theorem get_eq_none_iff {k : κ} : m k = none ↔ k ∉ xs.map key := by
  constructor
  · intro hk hmem
    obtain ⟨x, hx, rfl⟩ := List.mem_map.1 hmem
    rw [h.get_key hx] at hk
    cases hk
  · intro hk
    cases hm : m k with
    | none => rfl
    | some x =>
      obtain ⟨hx, rfl⟩ := (h.get_iff _ _).1 hm
      exact absurd (List.mem_map_of_mem hx) hk

theorem isSome_get_iff {k : κ} : (m k).isSome ↔ k ∈ xs.map key := by
  rw [Option.isSome_iff_ne_none, ne_eq, h.get_eq_none_iff, not_not]

theorem fresh_iff {ys : List α} : m.Fresh key ys ↔ ((xs ++ ys).map key).Nodup := by
  have hnone : ∀ y, m (key y) = none ↔ key y ∉ xs.map key := fun y => h.get_eq_none_iff
  rw [List.map_append, List.nodup_append', Fresh]
  simp only [hnone, h.nodup, true_and, List.disjoint_right, List.mem_map, forall_exists_index, and_imp,
    forall_apply_eq_imp_iff₂]

variable [DecidableEq κ]

theorem put {x : α} (hx : m (key x) = none) : Enumerates key (m.put key x) (xs ++ [x]) where
  nodup := h.fresh_iff.1 ⟨by simp, by simpa using hx⟩
  get_iff k y := by
    rw [List.mem_append, List.mem_singleton, Contents.put]
    split
    · next hk =>
      subst hk
      constructor
      · intro he
        cases he
        exact ⟨.inr rfl, rfl⟩
      · rintro ⟨hy | rfl, hk⟩
        · rw [← hk, h.get_key hy] at hx
          cases hx
        · rfl
    · next hk =>
      rw [h.get_iff]
      constructor
      · rintro ⟨hy, he⟩
        exact ⟨.inl hy, he⟩
      · rintro ⟨hy | rfl, he⟩
        · exact ⟨hy, he⟩
        · exact absurd he.symm hk

theorem putAll {ys : List α} (hy : m.Fresh key ys) : Enumerates key (m.putAll key ys) (xs ++ ys) := by
  induction ys generalizing m xs with
  | nil =>
    rw [List.append_nil]
    exact h
  | cons y ys ih =>
    have hput := h.put (hy.2 y List.mem_cons_self)
    have hrest : (m.put key y).Fresh key ys := by
      rw [hput.fresh_iff, List.append_assoc]
      exact h.fresh_iff.1 hy
    have := ih hput hrest
    rwa [List.append_assoc] at this

/-- A record is put in the place of the one with its key. -/
theorem replace {x : α} (hx : (m (key x)).isSome) : Enumerates key (m.put key x) (replaceIn key x xs) := by
  have hmem : ∀ y, y ∈ replaceIn key x xs ↔ y = x ∨ y ∈ xs ∧ key y ≠ key x := by
    intro y
    obtain ⟨z, hz, hzx⟩ := List.mem_map.1 (h.isSome_get_iff.1 hx)
    rw [replaceIn, List.mem_map]
    constructor
    · rintro ⟨y, hy, rfl⟩
      by_cases he : key y = key x
      · exact .inl (if_pos he)
      · rw [if_neg he]
        exact .inr ⟨hy, he⟩
    · rintro (rfl | ⟨hy, he⟩)
      · exact ⟨z, hz, if_pos hzx⟩
      · exact ⟨y, hy, if_neg he⟩
  refine ⟨?_, fun k y => ?_⟩
  · rw [map_key_replaceIn]
    exact h.nodup
  · rw [hmem, Contents.put]
    split
    · next hk =>
      subst hk
      constructor
      · intro he
        cases he
        exact ⟨.inl rfl, rfl⟩
      · rintro ⟨rfl | ⟨-, hne⟩, he⟩
        · rfl
        · exact absurd he hne
    · next hk =>
      rw [h.get_iff]
      constructor
      · rintro ⟨hy, rfl⟩
        exact ⟨.inr ⟨hy, hk⟩, rfl⟩
      · rintro ⟨rfl | ⟨hy, -⟩, he⟩
        · exact absurd he.symm hk
        · exact ⟨hy, he⟩

theorem removeAll (ks : List κ) : Enumerates key (m.removeAll ks) (xs.filter fun x => !decide (key x ∈ ks)) where
  nodup := h.nodup.sublist (List.filter_sublist.map key)
  get_iff k x := by
    rw [List.mem_filter, Bool.not_eq_true', decide_eq_false_iff_not, Contents.removeAll]
    split
    · next hk =>
      refine ⟨fun he => (by cases he), ?_⟩
      rintro ⟨⟨-, hn⟩, rfl⟩
      exact absurd hk hn
    · next hk =>
      rw [h.get_iff]
      constructor
      · rintro ⟨hx, rfl⟩
        exact ⟨⟨hx, hk⟩, rfl⟩
      · rintro ⟨⟨hx, -⟩, he⟩
        exact ⟨hx, he⟩

end Enumerates

end Contents

end TypedStorage
