/-
Handles and locks while many use a registry at once. The number of handles of a slot is exact
(`Counted.handles`): it is the number of callers that hold the slot, and one more for the table. So a slot that is
taken out while two hold it is held by the table and by the caller that gives up, hence by no one who could still
build (`Counted.release`). Locks are exact too (`Locked`), so no one is inside a slot that one caller holds from
outside (`Locked.owner_eq_none`).
-/
import TypedStorage.Proofs.Registry.Traffic

namespace TypedStorage

variable {μ : Type}

namespace Phase

variable {p : Phase μ} {a : Nat}

theorem held?_of_locked? (h : p.locked? = some a) : p.held? = some a := by
  cases p <;> first | exact h | cases h

theorem held?_of_used? (h : p.used? = some a) : p.held? = some a := by
  cases p <;> first | exact h | cases h

theorem locked?_of_filled? (h : p.filled? = some a) : p.locked? = some a := by
  cases p <;> first | exact h | cases h

theorem used?_of_filled? (h : p.filled? = some a) : p.used? = some a := by
  cases p <;> first | exact h | cases h

end Phase

namespace Traffic

variable {s : Traffic μ} {i j a : Nat} {c d : Caller μ} {p : Phase μ} {x : SharedSlot μ}

/-- How many callers hold a slot. -/
def holders (s : Traffic μ) (a : Nat) : Nat := s.callers.countP fun c => c.phase.held? = some a

theorem manager?_eq_some {key : SlotKey} {y : μ} :
    s.manager? key = some y ↔ ∃ a, s.table key = some a ∧ (s.slots a).content = some y := by
  rw [manager?, Option.bind_eq_some_iff]

/-! ## One caller moves -/

theorem caller?_act_self (h : s.caller? i = some c) : (s.act i c p a x).caller? i = some { c with phase := p } := by
  obtain ⟨hi, -⟩ := List.getElem?_eq_some_iff.1 h
  simp [caller?, act, hi]

theorem caller?_act_other (h : j ≠ i) : (s.act i c p a x).caller? j = s.caller? j := by
  simp [caller?, act, Ne.symm h]

/-- After a move the callers are the one that moved and the others. -/
theorem of_caller?_act (hc : s.caller? i = some c) (h : (s.act i c p a x).caller? j = some d) :
    (j = i ∧ d = { c with phase := p }) ∨ (j ≠ i ∧ s.caller? j = some d) := by
  by_cases hij : j = i
  · subst hij
    rw [caller?_act_self hc] at h
    exact .inl ⟨rfl, (Option.some.inj h).symm⟩
  · rw [caller?_act_other hij] at h
    exact .inr ⟨hij, h⟩

theorem slots_act_self : (s.act i c p a x).slots a = x := by simp [act]

theorem slots_act_other {b : Nat} (h : b ≠ a) : (s.act i c p a x).slots b = s.slots b := by simp [act, h]

/-- The count goes with the caller that moved. -/
theorem holders_act {u v : Option Nat} (h : s.caller? i = some c) (hu : c.phase.held? = u) (hv : p.held? = v) (b : Nat) :
    (s.act i c p a x).holders b + (if u = some b then 1 else 0) = s.holders b + if v = some b then 1 else 0 := by
  subst hu hv
  obtain ⟨hi, hc⟩ := List.getElem?_eq_some_iff.1 h
  have hle : (if c.phase.held? = some b then 1 else 0) ≤ s.holders b := by
    split
    · next hb => exact List.countP_pos_iff.2 ⟨c, hc ▸ List.getElem_mem hi, by simpa using hb⟩
    · exact Nat.zero_le _
  simp only [holders, act, List.countP_set hi, hc, decide_eq_true_eq] at hle ⊢
  omega

/-- Of callers that hold a slot there are as many as hold it. -/
theorem one_le_holders (h : s.caller? i = some c) (hc : c.phase.held? = some a) : 1 ≤ s.holders a :=
  List.countP_pos_iff.2 ⟨c, List.mem_of_getElem? h, by simpa using hc⟩

theorem eq_of_holders_le_one (hone : s.holders a ≤ 1) (hi : s.caller? i = some c) (hc : c.phase.held? = some a)
    (hj : s.caller? j = some d) (hd : d.phase.held? = some a) : i = j := by
  by_contra hne
  -- where the one caller lets go, the other still counts
  have hmoved := holders_act (v := none) (p := .arrived) (a := a) (x := s.slots a) hi hc rfl a
  have hother : 1 ≤ (s.act i c .arrived a (s.slots a)).holders a :=
    one_le_holders ((caller?_act_other (Ne.symm hne)).trans hj) hd
  simp only [if_true, reduceCtorEq, if_false] at hmoved
  omega

/-! ## Handles -/

/-- The table and the callers hold slots that were made; each slot is under one key and its handles are counted. -/
structure Counted (s : Traffic μ) : Prop where
  /-- Whoever may still use a slot holds the one that the key has. -/
  current : ∀ i c, s.caller? i = some c → ∀ a, c.phase.used? = some a → s.table c.key = some a
  handles : ∀ key a, s.table key = some a → (s.slots a).handles = s.holders a + 1
  one_key : ∀ key key' a, s.table key = some a → s.table key' = some a → key = key'
  table_lt : ∀ key a, s.table key = some a → a < s.made
  held_lt : ∀ i c, s.caller? i = some c → ∀ a, c.phase.held? = some a → a < s.made

/-- A step by which no slot is taken or let go. -/
theorem Counted.act (h : Counted s) (hc : s.caller? i = some c) (hheld : p.held? = c.phase.held?)
    (hused : ∀ b, p.used? = some b → c.phase.used? = some b) (hx : x.handles = (s.slots a).handles) :
    Counted (s.act i c p a x) := by
  refine ⟨?_, ?_, h.one_key, h.table_lt, ?_⟩
  · intro j d hd b hb
    rcases of_caller?_act hc hd with ⟨rfl, rfl⟩ | ⟨-, hd⟩
    · exact h.current j c hc b (hused b hb)
    · exact h.current j d hd b hb
  · intro key b hb
    have hcount := h.handles key b hb
    have hholders := holders_act (p := p) (a := a) (x := x) hc rfl hheld b
    by_cases hba : b = a
    · subst hba
      rw [slots_act_self, hx]
      omega
    · rw [slots_act_other hba]
      omega
  · intro j d hd b hb
    rcases of_caller?_act hc hd with ⟨rfl, rfl⟩ | ⟨-, hd⟩
    · exact h.held_lt j c hc b (hheld ▸ hb)
    · exact h.held_lt j d hd b hb

/-- A caller that held nothing takes the slot of its key. -/
theorem Counted.clone (h : Counted s) (hc : s.caller? i = some c) (hfree : c.phase.held? = none)
    (ha : s.table c.key = some a) (hx : x.handles = (s.slots a).handles + 1) : Counted (s.act i c (.waiting a) a x) := by
  refine ⟨?_, ?_, h.one_key, h.table_lt, ?_⟩
  · intro j d hd b hb
    rcases of_caller?_act hc hd with ⟨rfl, rfl⟩ | ⟨-, hd⟩
    · cases hb
      exact ha
    · exact h.current j d hd b hb
  · intro key b hb
    have hcount := h.handles key b hb
    have hholders := holders_act (v := some a) (p := .waiting a) (a := a) (x := x) hc hfree rfl b
    simp only [reduceCtorEq, if_false, Option.some.injEq] at hholders
    by_cases hba : b = a
    · subst hba
      rw [if_pos rfl] at hholders
      rw [slots_act_self, hx]
      omega
    · rw [if_neg fun he => hba he.symm] at hholders
      rw [slots_act_other hba]
      omega
  · intro j d hd b hb
    rcases of_caller?_act hc hd with ⟨rfl, rfl⟩ | ⟨-, hd⟩
    · cases hb
      exact h.table_lt _ _ ha
    · exact h.held_lt j d hd b hb

/-- No caller holds a slot that was not made. -/
theorem Counted.holders_made (h : Counted s) : s.holders s.made = 0 := by
  rw [holders, List.countP_eq_zero]
  intro c hc
  obtain ⟨i, hi⟩ := List.getElem?_of_mem hc
  simp only [decide_eq_true_eq]
  intro hheld
  exact Nat.lt_irrefl _ (h.held_lt i c hi _ hheld)

/-- The first caller of a key makes its slot. -/
theorem Counted.make (h : Counted s) (hc : s.caller? i = some c) (hfree : c.phase.held? = none)
    (ha : s.table c.key = none) : Counted { s.act i c (.waiting s.made) s.made ⟨none, none, 2⟩ with
      table := Function.update s.table c.key (some s.made), made := s.made + 1 } := by
  have htable : ∀ {key b}, Function.update s.table c.key (some s.made) key = some b →
      (key = c.key ∧ b = s.made) ∨ (s.table key = some b ∧ b < s.made) := by
    intro key b hb
    by_cases hk : key = c.key
    · subst hk
      rw [Function.update_self] at hb
      exact .inl ⟨rfl, (Option.some.inj hb).symm⟩
    · rw [Function.update_of_ne hk] at hb
      exact .inr ⟨hb, h.table_lt _ _ hb⟩
  have hcallers := fun j d => of_caller?_act (j := j) (d := d) (p := .waiting s.made) (a := s.made)
    (x := ⟨none, none, 2⟩) hc
  have hholders := holders_act (v := some s.made) (p := .waiting s.made) (a := s.made) (x := ⟨none, none, 2⟩) hc hfree rfl
  have hself : (s.act i c (.waiting s.made) s.made ⟨none, none, 2⟩).slots s.made = ⟨none, none, 2⟩ := slots_act_self
  have hother := fun b => slots_act_other (s := s) (i := i) (c := c) (p := .waiting s.made) (a := s.made)
    (x := ⟨none, none, 2⟩) (b := b)
  generalize s.act i c (.waiting s.made) s.made ⟨none, none, 2⟩ = t at hcallers hholders hself hother
  simp only [reduceCtorEq, if_false, Option.some.injEq] at hholders
  refine ⟨?_, ?_, ?_, ?_, ?_⟩
  · intro j d hd b hb
    rcases hcallers j d hd with ⟨rfl, rfl⟩ | ⟨-, hd⟩
    · cases hb
      exact Function.update_self ..
    · have hold := h.current j d hd b hb
      have hk : d.key ≠ c.key := by
        intro hk
        rw [hk, ha] at hold
        cases hold
      exact (Function.update_of_ne hk ..).trans hold
  · intro key b hb
    show (t.slots b).handles = t.holders b + 1
    have hcount := hholders b
    rcases htable hb with ⟨rfl, rfl⟩ | ⟨hb, hlt⟩
    · rw [if_pos rfl, h.holders_made] at hcount
      rw [hself]
      dsimp only
      omega
    · rw [if_neg (by omega)] at hcount
      rw [hother b (by omega), h.handles key b hb]
      omega
  · intro key key' b hb hb'
    rcases htable hb with ⟨rfl, rfl⟩ | ⟨hb, hlt⟩ <;> rcases htable hb' with ⟨rfl, hb'⟩ | ⟨hb', hlt'⟩
    · rfl
    · exact absurd hlt' (Nat.lt_irrefl _)
    · exact absurd hlt (by omega)
    · exact h.one_key key key' b hb hb'
  · intro key b hb
    rcases htable hb with ⟨-, rfl⟩ | ⟨-, hlt⟩
    · exact Nat.lt_succ_self _
    · exact Nat.lt_succ_of_lt hlt
  · intro j d hd b hb
    rcases hcallers j d hd with ⟨rfl, rfl⟩ | ⟨-, hd⟩
    · cases hb
      exact Nat.lt_succ_self _
    · exact Nat.lt_succ_of_lt (h.held_lt j d hd b hb)

/-- A caller lets go. -/
theorem Counted.drop (h : Counted s) (hc : s.caller? i = some c) (hheld : c.phase.held? = some a)
    (hp : p.held? = none) (hx : x.handles = (s.slots a).handles - 1) : Counted (s.act i c p a x) := by
  have hused : p.used? = none := by
    cases hu : p.used? with
    | none => rfl
    | some b => rw [Phase.held?_of_used? hu] at hp; cases hp
  refine ⟨?_, ?_, h.one_key, h.table_lt, ?_⟩
  · intro j d hd b hb
    rcases of_caller?_act hc hd with ⟨rfl, rfl⟩ | ⟨-, hd⟩
    · rw [hused] at hb
      cases hb
    · exact h.current j d hd b hb
  · intro key b hb
    have hcount := h.handles key b hb
    have hholders := holders_act (p := p) (a := a) (x := x) hc hheld hp b
    simp only [Option.some.injEq, reduceCtorEq, if_false] at hholders
    by_cases hba : b = a
    · subst hba
      have hpos := one_le_holders hc hheld
      rw [if_pos rfl] at hholders
      rw [slots_act_self, hx]
      omega
    · rw [if_neg fun he => hba he.symm] at hholders
      rw [slots_act_other hba]
      omega
  · intro j d hd b hb
    rcases of_caller?_act hc hd with ⟨rfl, rfl⟩ | ⟨-, hd⟩
    · rw [hp] at hb
      cases hb
    · exact h.held_lt j d hd b hb

/-- What a slot that may go out of the table is: the key's, and held by one caller. -/
theorem Counted.of_release (h : Counted s) {key : SlotKey} (ha : s.table key = some a) (hh : (s.slots a).handles = 2) :
    s.holders a = 1 := by
  have := h.handles key a ha
  omega

/-- A slot goes out of the table where one caller holds it, which does not use it any more. -/
theorem Counted.release (h : Counted s) (hc : s.caller? i = some c) (hheld : c.phase.held? = some a)
    (hused : c.phase.used? = none) : Counted (s.release c.key a) := by
  unfold Traffic.release
  split
  · next hr =>
    obtain ⟨ha, hh, -⟩ := hr
    have hone := h.of_release ha hh
    have htable : ∀ {key b}, Function.update s.table c.key none key = some b → key ≠ c.key ∧ s.table key = some b := by
      intro key b hb
      by_cases hk : key = c.key
      · subst hk
        rw [Function.update_self] at hb
        cases hb
      · rw [Function.update_of_ne hk] at hb
        exact ⟨hk, hb⟩
    refine ⟨?_, ?_, ?_, ?_, h.held_lt⟩
    · intro j d hd b hb
      have hold := h.current j d hd b hb
      have hk : d.key ≠ c.key := by
        intro hk
        -- the other would hold the slot too
        rw [hk, ha] at hold
        cases hold
        obtain rfl := eq_of_holders_le_one (Nat.le_of_eq hone) hc hheld hd (Phase.held?_of_used? hb)
        obtain rfl := Option.some.inj (hc.symm.trans hd)
        rw [hused] at hb
        cases hb
      exact (Function.update_of_ne hk ..).trans hold
    · intro key b hb
      obtain ⟨hk, hold⟩ := htable hb
      have hba : b ≠ a := fun he => hk (h.one_key _ _ _ hold (he ▸ ha))
      show (Function.update s.slots a _ b).handles = s.holders b + 1
      rw [Function.update_of_ne hba]
      exact h.handles key b hold
    · intro key key' b hb hb'
      exact h.one_key key key' b (htable hb).2 (htable hb').2
    · intro key b hb
      exact h.table_lt key b (htable hb).2
  · exact h

theorem caller?_release (key : SlotKey) : (s.release key a).caller? j = s.caller? j := by
  unfold Traffic.release
  split <;> rfl

/-! ## Locks -/

/-- The owner of a lock is the caller that has it. -/
def Locked (s : Traffic μ) : Prop :=
  ∀ a i, (s.slots a).owner = some i ↔ ∃ c, s.caller? i = some c ∧ c.phase.locked? = some a

/-- A step by which no lock is taken or given back. -/
theorem Locked.act (h : Locked s) (hc : s.caller? i = some c) (hp : p.locked? = c.phase.locked?)
    (hx : x.owner = (s.slots a).owner) : Locked (s.act i c p a x) := by
  intro b j
  have hslot : ((s.act i c p a x).slots b).owner = (s.slots b).owner := by
    by_cases hba : b = a
    · rw [hba, slots_act_self, hx]
    · rw [slots_act_other hba]
  rw [hslot, h b j]
  by_cases hij : j = i
  · subst hij
    simp only [caller?_act_self hc, hc, Option.some.injEq, exists_eq_left', hp]
  · rw [caller?_act_other hij]

/-- A step by which a caller takes a lock that is free, or gives its lock back. -/
theorem Locked.turn (h : Locked s) (hc : s.caller? i = some c) (hfree : ∀ k, (s.slots a).owner = some k → k = i)
    (hfrom : ∀ b, c.phase.locked? = some b → b = a) (hx : ∀ k, x.owner = some k → k = i)
    (hto : ∀ b, p.locked? = some b ↔ b = a ∧ x.owner = some i) : Locked (s.act i c p a x) := by
  intro b j
  by_cases hij : j = i
  · subst hij
    simp only [caller?_act_self hc, Option.some.injEq, exists_eq_left', hto]
    by_cases hba : b = a
    · simp only [hba, slots_act_self, true_and]
    · rw [slots_act_other hba]
      refine ⟨fun ho => absurd ?_ hba, fun ho => absurd ho.1 hba⟩
      obtain ⟨d, hd, hb⟩ := (h b j).1 ho
      obtain rfl := Option.some.inj (hc.symm.trans hd)
      exact hfrom b hb
  · rw [caller?_act_other hij, ← h b j]
    by_cases hba : b = a
    · rw [hba, slots_act_self]
      exact ⟨fun ho => absurd (hx j ho) hij, fun ho => absurd (hfree j ho) hij⟩
    · rw [slots_act_other hba]

/-- Nobody is inside a slot that one caller holds from outside. -/
theorem Locked.owner_eq_none (h : Locked s) (hc : s.caller? i = some c) (hheld : c.phase.held? = some a)
    (hout : c.phase.locked? = none) (hone : s.holders a = 1) : (s.slots a).owner = none := by
  cases ho : (s.slots a).owner with
  | none => rfl
  | some j =>
    obtain ⟨d, hd, hlock⟩ := (h a j).1 ho
    obtain rfl := eq_of_holders_le_one (Nat.le_of_eq hone) hc hheld hd (Phase.held?_of_locked? hlock)
    obtain rfl := Option.some.inj (hc.symm.trans hd)
    rw [hout] at hlock
    cases hlock

theorem Locked.release (h : Locked s) (key : SlotKey) : Locked (s.release key a) := by
  intro b j
  have hslot : ((s.release key a).slots b).owner = (s.slots b).owner := by
    unfold Traffic.release
    split
    · by_cases hba : b = a
      · simp [hba]
      · simp [hba]
    · rfl
  rw [hslot, h b j]
  simp only [caller?_release]

end Traffic

end TypedStorage
