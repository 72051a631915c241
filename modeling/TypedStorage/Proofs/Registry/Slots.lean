/-
What the operations on slots do, slot by slot. Everything that a registry is asked is answered by its slots, so
these are all the facts about maps that the runs of a registry need. `slotCount_eq` counts slots as keys.
-/
import TypedStorage.Registry.Basic
import TypedStorage.Proofs.KeyMap
import Mathlib.Data.Finset.Card
import Mathlib.Data.List.Dedup

namespace TypedStorage

theorem ManagerKind.mem_all (k : ManagerKind) : k ∈ all := by cases k <;> decide

namespace Registry

variable {σ μ : Type} (r : Registry μ) {kind kind' : ManagerKind} {name name' : String}

theorem manager?_eq : r.manager? kind name = (r.slot? kind name).join := rfl

/-- A change of one kind leaves the others alone. -/
theorem slot?_update_other (h : kind' ≠ kind) (change : KeyMap (Option μ) → KeyMap (Option μ)) :
    (r.update kind change).slot? kind' name = r.slot? kind' name := by
  simp [slot?, update, h]

theorem slot?_update_self (change : KeyMap (Option μ) → KeyMap (Option μ)) :
    (r.update kind change).slot? kind name = (change (r.slots kind)).get? name := by
  simp [slot?, update]

/-- One slot is set, and no other. -/
theorem slot?_update_insert (v : Option μ) :
    (r.update kind fun m => m.insert name v).slot? kind' name' =
      if (kind', name') = (kind, name) then some v else r.slot? kind' name' := by
  by_cases hk : kind' = kind
  · subst hk
    rw [slot?_update_self, KeyMap.get?_insert]
    simp [slot?]
  · rw [slot?_update_other r hk]
    simp [hk]

theorem slot?_update_erase :
    (r.update kind fun m => m.erase name).slot? kind' name' =
      if (kind', name') = (kind, name) then none else r.slot? kind' name' := by
  by_cases hk : kind' = kind
  · subst hk
    rw [slot?_update_self, KeyMap.get?_erase]
    simp [slot?]
  · rw [slot?_update_other r hk]
    simp [hk]

theorem slot?_reserve : (r.reserve kind name).slot? kind' name' =
    if (kind', name') = (kind, name) then some (r.manager? kind name) else r.slot? kind' name' :=
  slot?_update_insert r _

theorem slot?_fill (x : μ) : (r.fill kind name x).slot? kind' name' =
    if (kind', name') = (kind, name) then some (some x) else r.slot? kind' name' :=
  slot?_update_insert r _

theorem manager?_reserve : (r.reserve kind name).manager? kind name = r.manager? kind name := by
  rw [manager?_eq, slot?_reserve, if_pos rfl]
  rfl

/-- An empty slot is taken away. -/
theorem slot?_release (h : r.manager? kind name = none) : (r.release kind name).slot? kind' name' =
    if (kind', name') = (kind, name) then none else r.slot? kind' name' := by
  rw [release, h]
  exact slot?_update_erase r

/-! ## Counting -/

/-- The keys that have a slot, kind by kind. -/
def keys : List (ManagerKind × String) := ManagerKind.all.flatMap fun k => (r.slots k).keys.map fun n => (k, n)

theorem mem_keys : (kind, name) ∈ r.keys ↔ (r.slot? kind name).isSome := by
  simp [keys, ManagerKind.mem_all, KeyMap.mem_keys_iff, slot?]

theorem nodup_keys : r.keys.Nodup := by
  rw [keys, List.nodup_flatMap]
  constructor
  · intro k _
    have hs : (r.slots k).keys.Pairwise (· < ·) := (r.slots k).sorted
    have hn : (r.slots k).keys.Nodup := hs.imp fun h => String.ne_of_lt h
    exact hn.map fun a b h => (Prod.mk.inj h).2
  · have hall : ManagerKind.all.Pairwise (· ≠ ·) := by decide
    refine hall.imp fun hne => ?_
    intro p hp hq
    obtain ⟨n, -, rfl⟩ := List.mem_map.1 hp
    obtain ⟨n', -, he⟩ := List.mem_map.1 hq
    exact hne (Prod.mk.inj he).1.symm

theorem slotCount_eq : r.slotCount = r.keys.toFinset.card := by
  rw [List.toFinset_card_of_nodup r.nodup_keys, slotCount, keys]
  simp [ManagerKind.all, KeyMap.keys]

/-- The names of a kind are in strictly increasing order. -/
theorem pairwise_names : (r.names kind).Pairwise (· < ·) := by
  have hs : (r.slots kind).keys.Pairwise (· < ·) := (r.slots kind).sorted
  exact hs.filter _

theorem mem_names : name ∈ r.names kind ↔ (r.manager? kind name).isSome := by
  rw [names, List.mem_filter, KeyMap.mem_keys_iff, contains]
  constructor
  · exact fun h => h.2
  · intro h
    refine ⟨?_, h⟩
    rw [manager?_eq, slot?] at h
    cases hg : (r.slots kind).get? name with
    | none => simp [hg] at h
    | some v => rfl

end Registry

end TypedStorage
