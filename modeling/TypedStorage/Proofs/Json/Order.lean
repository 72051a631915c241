/-
The order of members is no part of a value. Whatever order the members of its objects are in, on every level, a value
is read as the same document, if it is not nested too deeply (`document?_of_arranges`).
-/
import Mathlib.Data.List.Forall2
import TypedStorage.Proofs.Json.RoundTrip

namespace TypedStorage

/-! ## Entries in another order -/

theorem mem_sortEntries_iff {α : Type} {l : List (String × α)} (hn : (l.map Prod.fst).Nodup) {p : String × α} :
    p ∈ sortEntries l ↔ p ∈ l :=
  ⟨Json.mem_sortEntries, fun h => KeyMap.get?_eq_some_iff.1 (KeyMap.get?_ofPairs_of_mem hn h)⟩

/-- Sorting puts entries in another order, where each key is given once. -/
theorem sortEntries_perm {α : Type} {l : List (String × α)} (hn : (l.map Prod.fst).Nodup) : (sortEntries l).Perm l := by
  have hsorted : (sortEntries l).Nodup := List.Nodup.of_map Prod.fst (KeyMap.nodup_keys (KeyMap.ofPairs l))
  exact (List.perm_ext_iff_of_nodup hsorted (List.Nodup.of_map Prod.fst hn)).2 fun p => mem_sortEntries_iff hn

/-- A map is found again from its entries in any order. -/
theorem KeyMap.ofPairs_of_perm {α : Type} {m : KeyMap α} {l : List (String × α)} (h : l.Perm m.entries) :
    KeyMap.ofPairs l = m := by
  have hn : (l.map Prod.fst).Nodup := (h.map Prod.fst).nodup_iff.2 m.nodup_keys
  refine KeyMap.ext_get? fun k => Option.ext fun v => ?_
  rw [KeyMap.get?_eq_some_iff, KeyMap.get?_eq_some_iff]
  exact (mem_sortEntries_iff hn).trans h.mem_iff

namespace Json

/-- The same value, with the members of its objects in any order. -/
inductive Arranges : Json → Json → Prop
  | null : Arranges .null .null
  | bool (b : Bool) : Arranges (.bool b) (.bool b)
  | number (n : Number) : Arranges (.number n) (.number n)
  | string (s : String) : Arranges (.string s) (.string s)
  | array {items' items : List Json} (h : List.Forall₂ Arranges items' items) : Arranges (.array items') (.array items)
  | object {members' arranged members : List (String × Json)} (names : members'.map Prod.fst = arranged.map Prod.fst)
    (values : List.Forall₂ Arranges (members'.map Prod.snd) (arranged.map Prod.snd)) (order : arranged.Perm members) :
    Arranges (.object members') (.object members)

mutual

theorem arranges_refl : ∀ j : Json, Arranges j j
  | .null => .null
  | .bool b => .bool b
  | .number n => .number n
  | .string s => .string s
  | .array items => .array (arrangesItems_refl items)
  | .object members => .object rfl (arrangesMembers_refl members) (.refl members)

theorem arrangesItems_refl : ∀ items : List Json, List.Forall₂ Arranges items items
  | [] => .nil
  | j :: items => .cons (arranges_refl j) (arrangesItems_refl items)

theorem arrangesMembers_refl : ∀ members : List (String × Json),
    List.Forall₂ Arranges (members.map Prod.snd) (members.map Prod.snd)
  | [] => .nil
  | (_, j) :: members => .cons (arranges_refl j) (arrangesMembers_refl members)

end

/-- The members of an arranged object, one by one and then in order. -/
theorem arranges_object_iff {j : Json} {members : List (String × Json)} : j.Arranges (.object members) ↔
    ∃ members' arranged, j = .object members' ∧
      List.Forall₂ (fun p q => p.1 = q.1 ∧ Arranges p.2 q.2) members' arranged ∧ arranged.Perm members := by
  have pairs : ∀ members' arranged : List (String × Json),
      List.Forall₂ (fun p q => p.1 = q.1 ∧ Arranges p.2 q.2) members' arranged ↔
        members'.map Prod.fst = arranged.map Prod.fst ∧
          List.Forall₂ Arranges (members'.map Prod.snd) (arranged.map Prod.snd) := by
    intro members'
    induction members' with
    | nil => intro arranged; cases arranged <;> simp
    | cons p members' ih => intro arranged; cases arranged <;> simp [ih, and_assoc, and_left_comm]
  constructor
  · rintro (_ | _ | _ | _ | _ | ⟨names, values, order⟩)
    exact ⟨_, _, rfl, (pairs _ _).2 ⟨names, values⟩, order⟩
  · rintro ⟨members', arranged, rfl, h, order⟩
    exact .object ((pairs _ _).1 h).1 ((pairs _ _).1 h).2 order

/-! ## Sources and nesting -/

theorem ofItems_eq_map (items : List Json) : Source.ofItems items = items.map Source.ofJson := by
  induction items with
  | nil => rfl
  | cons j items ih => rw [Source.ofItems, ih, List.map_cons]

theorem ofMembers_eq_map (members : List (String × Json)) :
    Source.ofMembers members = members.map fun p => (some p.1, Source.ofJson p.2) := by
  induction members with
  | nil => rfl
  | cons p members ih => rw [Source.ofMembers, ih, List.map_cons]

theorem itemsDepth_le_iff {items : List Json} {n : Nat} : itemsDepth items ≤ n ↔ ∀ j ∈ items, j.depth ≤ n := by
  induction items with
  | nil => simp [itemsDepth]
  | cons j items ih => simp [itemsDepth, ih]

theorem membersDepth_le_iff {members : List (String × Json)} {n : Nat} :
    membersDepth members ≤ n ↔ ∀ p ∈ members, p.2.depth ≤ n := by
  induction members with
  | nil => simp [membersDepth]
  | cons p members ih => simp [membersDepth, ih]

/-! ## Documents -/

mutual

/-- However it is arranged, a value is read as itself if the nesting stays within the bound, and as nothing else. -/
theorem json?_of_arranges : ∀ (j' : Json) {j : Json} {budget : Nat}, j'.Arranges j → j.Ordered →
    ∀ y, Source.json? budget (Source.ofJson j') = some y ↔ y = j ∧ j'.depth ≤ budget
  | .null, _, _, h, _, y => by
    cases h
    simp [Source.ofJson, Source.json?, depth, eq_comm]
  | .bool b, _, _, h, _, y => by
    cases h
    simp [Source.ofJson, Source.json?, depth, eq_comm]
  | .number n, _, _, h, _, y => by
    cases h
    simp [Source.ofJson, Source.json?, depth, eq_comm]
  | .string s, _, _, h, _, y => by
    cases h
    simp [Source.ofJson, Source.json?, depth, eq_comm]
  | .array items', j, budget, h, ho, y => by
    cases h with
    | @array _ items h =>
      rw [Ordered] at ho
      cases budget with
      | zero => simp [Source.ofJson, Source.json?, depth]
      | succ budget =>
        simp only [Source.ofJson, Source.json?, Option.map_eq_some_iff, jsonItems?_of_arranges items' h ho, depth,
          Nat.add_le_add_iff_right]
        constructor
        · rintro ⟨_, ⟨rfl, hd⟩, rfl⟩
          exact ⟨rfl, hd⟩
        · rintro ⟨rfl, hd⟩
          exact ⟨items, ⟨rfl, hd⟩, rfl⟩
  | .object members', j, budget, h, ho, y => by
    cases h with
    | @object _ arranged members names values order =>
      rw [Ordered, orderedMembers_iff] at ho
      have hordered : ∀ p ∈ arranged, p.2.Ordered := fun p hp => ho.2 p (order.mem_iff.1 hp)
      have hsorted : Json.ofMembers arranged = .object members :=
        congrArg (fun m : KeyMap Json => Json.object m.entries)
          (@KeyMap.ofPairs_of_perm _ ⟨members, ho.1⟩ arranged order)
      cases budget with
      | zero => simp [Source.ofJson, Source.json?, depth]
      | succ budget =>
        simp only [Source.ofJson, Source.json?, Option.map_eq_some_iff,
          jsonMembers?_of_arranges members' names values hordered, depth, Nat.add_le_add_iff_right]
        constructor
        · rintro ⟨_, ⟨rfl, hd⟩, rfl⟩
          exact ⟨hsorted, hd⟩
        · rintro ⟨rfl, hd⟩
          exact ⟨arranged, ⟨rfl, hd⟩, hsorted⟩

theorem jsonItems?_of_arranges : ∀ (items' : List Json) {items : List Json} {budget : Nat},
    List.Forall₂ Arranges items' items → OrderedItems items →
      ∀ ys, Source.jsonItems? budget (Source.ofItems items') = some ys ↔ ys = items ∧ itemsDepth items' ≤ budget
  | [], _, _, h, _, ys => by
    cases h
    simp [Source.ofItems, Source.jsonItems?, itemsDepth, eq_comm]
  | j' :: items', _, budget, h, ho, ys => by
    cases h with
    | @cons _ j _ items hj hitems =>
      rw [OrderedItems] at ho
      simp only [Source.ofItems, Source.jsonItems?, Option.bind_eq_bind, Option.bind_eq_some_iff, Option.pure_def,
        Option.some.injEq, json?_of_arranges j' hj ho.1, jsonItems?_of_arranges items' hitems ho.2, itemsDepth,
        Nat.max_le]
      constructor
      · rintro ⟨_, ⟨rfl, hd⟩, _, ⟨rfl, hds⟩, rfl⟩
        exact ⟨rfl, hd, hds⟩
      · rintro ⟨rfl, hd, hds⟩
        exact ⟨j, ⟨rfl, hd⟩, items, ⟨rfl, hds⟩, rfl⟩

theorem jsonMembers?_of_arranges : ∀ (members' : List (String × Json)) {arranged : List (String × Json)} {budget : Nat},
    members'.map Prod.fst = arranged.map Prod.fst →
      List.Forall₂ Arranges (members'.map Prod.snd) (arranged.map Prod.snd) → (∀ p ∈ arranged, p.2.Ordered) →
      ∀ ys, Source.jsonMembers? budget (Source.ofMembers members') = some ys ↔
        ys = arranged ∧ membersDepth members' ≤ budget
  | [], arranged, _, names, _, _, ys => by
    cases arranged with
    | nil => simp [Source.ofMembers, Source.jsonMembers?, membersDepth, eq_comm]
    | cons q arranged => cases names
  | (k, j') :: members', arranged, budget, names, values, ho, ys => by
    cases arranged with
    | nil => cases names
    | cons q arranged =>
      obtain ⟨k', j⟩ := q
      obtain ⟨hk, hnames⟩ := List.cons.inj names
      obtain rfl : k = k' := hk
      cases values with
      | cons hj hrest =>
        simp only [Source.ofMembers, Source.jsonMembers?, Option.bind_eq_bind, Option.bind_eq_some_iff,
          Option.bind_some, Option.pure_def, Option.some.injEq, json?_of_arranges j' hj (ho _ List.mem_cons_self),
          jsonMembers?_of_arranges members' hnames hrest (fun p hp => ho p (List.mem_cons_of_mem _ hp)), membersDepth,
          Nat.max_le]
        constructor
        · rintro ⟨_, ⟨rfl, hd⟩, _, ⟨rfl, hds⟩, rfl⟩
          exact ⟨rfl, hd, hds⟩
        · rintro ⟨rfl, hd, hds⟩
          exact ⟨j, ⟨rfl, hd⟩, arranged, ⟨rfl, hds⟩, rfl⟩

end

theorem document?_of_arranges {j : Json} {d : Document} {budget : Nat} (h : j.Arranges d.tree) (y : Document) :
    Source.document? budget (Source.ofJson j) = some y ↔ y = d ∧ j.depth ≤ budget := by
  have hjson := @json?_of_arranges j d.tree budget h d.ordered
  constructor
  · intro hy
    have htree : Source.json? budget (Source.ofJson j) = some y.tree := by
      unfold Source.document? at hy
      split at hy
      · next j' hj' =>
        cases hy
        exact hj'
      · cases hy
    obtain ⟨he, hd⟩ := (hjson _).1 htree
    exact ⟨Document.ext he, hd⟩
  · rintro ⟨rfl, hd⟩
    exact document?_eq_some ((hjson _).2 ⟨rfl, hd⟩)

end Json

end TypedStorage
