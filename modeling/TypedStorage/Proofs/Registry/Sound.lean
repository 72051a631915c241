/-
What no step breaks while many use a registry at once (`Sound.run`). Unlocking a slot and taking it out of the table
are two steps, so others can come between. That handles and locks are exact makes it safe; on top of that, what is
stored is what is found (`Kept`).
-/
import TypedStorage.Proofs.Registry.Handles

namespace TypedStorage

namespace Traffic

variable {μ : Type} {s : Traffic μ} {i j a : Nat} {c d : Caller μ} {p : Phase μ} {x : SharedSlot μ}

/-! ## What is stored -/

/-- What is stored stays under its key, once, and is what callers get. -/
structure Kept (s : Traffic μ) : Prop where
  empty : ∀ i c, s.caller? i = some c → ∀ a, c.phase.filled? = some a → (s.slots a).content = none
  stored : ∀ key y, (key, y) ∈ s.stored ↔ s.manager? key = some y
  once : ∀ key, (s.stored.filter fun e => e.1 = key).length ≤ 1
  given : ∀ i c, s.caller? i = some c → ∀ y, c.phase.given? = some y → s.manager? c.key = some y

theorem content_act (hx : x.content = (s.slots a).content) (b : Nat) :
    ((s.act i c p a x).slots b).content = (s.slots b).content := by
  by_cases hba : b = a
  · rw [hba, slots_act_self, hx]
  · rw [slots_act_other hba]

theorem manager?_act (hx : x.content = (s.slots a).content) (key : SlotKey) :
    (s.act i c p a x).manager? key = s.manager? key := by
  simp only [manager?, content_act hx]
  rfl

/-- A step by which nothing is stored. -/
theorem Kept.act (h : Kept s) (hc : s.caller? i = some c) (hx : x.content = (s.slots a).content)
    (hfilled : ∀ b, p.filled? = some b → (s.slots b).content = none)
    (hgiven : ∀ y, p.given? = some y → s.manager? c.key = some y) : Kept (s.act i c p a x) := by
  refine ⟨?_, ?_, h.once, ?_⟩
  · intro j d hd b hb
    rw [content_act hx]
    rcases of_caller?_act hc hd with ⟨rfl, rfl⟩ | ⟨-, hd⟩
    · exact hfilled b hb
    · exact h.empty j d hd b hb
  · intro key y
    rw [manager?_act hx]
    exact h.stored key y
  · intro j d hd y hy
    rw [manager?_act hx]
    rcases of_caller?_act hc hd with ⟨rfl, rfl⟩ | ⟨-, hd⟩
    · exact hgiven y hy
    · exact h.given j d hd y hy

/-- Under a key where nothing is, nothing was stored. -/
theorem Kept.filter_eq_nil (h : Kept s) {key : SlotKey} (hn : s.manager? key = none) :
    (s.stored.filter fun e => e.1 = key) = [] := by
  rw [List.filter_eq_nil_iff]
  rintro ⟨key', y⟩ he hk
  obtain rfl : key' = key := by simpa using hk
  rw [(h.stored key' y).1 he] at hn
  cases hn

/-- The step by which a manager is stored. -/
theorem Kept.store (h : Kept s) (hcounted : Counted s) (hlocked : Locked s) (hc : s.caller? i = some c) {y : μ}
    (hp : c.phase = .storing a y) : Kept { s.act i c (.leaving a (.ok y)) a { s.slots a with content := some y } with
      stored := s.stored ++ [(c.key, y)] } := by
  have ha : s.table c.key = some a := hcounted.current i c hc a (by rw [hp]; rfl)
  have hempty : (s.slots a).content = none := h.empty i c hc a (by rw [hp]; rfl)
  have hn : s.manager? c.key = none := by rw [manager?, ha]; exact hempty
  have hcallers := fun j d => of_caller?_act (j := j) (d := d) (p := .leaving a (.ok y)) (a := a)
    (x := { s.slots a with content := some y }) hc
  have hother := fun b => slots_act_other (s := s) (i := i) (c := c) (p := .leaving a (.ok y)) (a := a)
    (x := { s.slots a with content := some y }) (b := b)
  have hmanager : ∀ key, (s.act i c (.leaving a (.ok y)) a { s.slots a with content := some y }).manager? key =
      if key = c.key then some y else s.manager? key := by
    intro key
    split
    · next hk => simp [manager?, Traffic.act, hk, ha]
    · next hk =>
      have hba : ∀ b, s.table key = some b → b ≠ a := fun b hb he => hk (hcounted.one_key key c.key b hb (he ▸ ha))
      cases hb : s.table key with
      | none => simp [manager?, Traffic.act, hb]
      | some b => simp [manager?, Traffic.act, hb, hba b hb]
  generalize s.act i c (.leaving a (.ok y)) a { s.slots a with content := some y } = t at hcallers hother hmanager
  refine ⟨?_, ?_, ?_, ?_⟩
  · intro j d hd b hb
    rcases hcallers j d hd with ⟨rfl, rfl⟩ | ⟨hij, hd⟩
    · cases hb
    · -- only one caller has the lock of a slot
      have hba : b ≠ a := by
        rintro rfl
        have hi := (hlocked b i).2 ⟨c, hc, by rw [hp]; rfl⟩
        have hj := (hlocked b j).2 ⟨d, hd, Phase.locked?_of_filled? hb⟩
        exact hij (Option.some.inj (hj.symm.trans hi))
      show (t.slots b).content = none
      rw [hother b hba]
      exact h.empty j d hd b hb
  · intro key z
    show (key, z) ∈ s.stored ++ [(c.key, y)] ↔ t.manager? key = some z
    rw [hmanager, List.mem_append, List.mem_singleton, h.stored, Prod.mk.injEq]
    by_cases hk : key = c.key
    · subst hk
      simp [hn, eq_comm]
    · simp [hk]
  · intro key
    show ((s.stored ++ [(c.key, y)]).filter fun e => e.1 = key).length ≤ 1
    rw [List.filter_append, List.length_append]
    by_cases hk : c.key = key
    · subst hk
      simp [h.filter_eq_nil hn]
    · have := h.once key
      simpa [hk] using this
  · intro j d hd z hz
    show t.manager? d.key = some z
    rw [hmanager]
    rcases hcallers j d hd with ⟨rfl, rfl⟩ | ⟨-, hd⟩
    · rw [if_pos rfl]
      exact hz
    · have hold := h.given j d hd z hz
      rw [if_neg]
      · exact hold
      · intro hk
        rw [hk, hn] at hold
        cases hold

/-- A new slot is empty. -/
theorem Kept.make (h : Kept s) (hcounted : Counted s) (hc : s.caller? i = some c) (ha : s.table c.key = none) :
    Kept { s.act i c (.waiting s.made) s.made ⟨none, none, 2⟩ with
      table := Function.update s.table c.key (some s.made), made := s.made + 1 } := by
  have hcallers := fun j d => of_caller?_act (j := j) (d := d) (p := .waiting s.made) (a := s.made)
    (x := ⟨none, none, 2⟩) hc
  have hother := fun b => slots_act_other (s := s) (i := i) (c := c) (p := .waiting s.made) (a := s.made)
    (x := ⟨none, none, 2⟩) (b := b)
  have hself : (s.act i c (.waiting s.made) s.made ⟨none, none, 2⟩).slots s.made = ⟨none, none, 2⟩ := slots_act_self
  have hstored : (s.act i c (.waiting s.made) s.made ⟨none, none, 2⟩).stored = s.stored := rfl
  generalize s.act i c (.waiting s.made) s.made ⟨none, none, 2⟩ = t at hcallers hself hother hstored
  have hmanager : ∀ key, manager? { t with
      table := Function.update s.table c.key (some s.made), made := s.made + 1 } key = s.manager? key := by
    intro key
    by_cases hk : key = c.key
    · subst hk
      simp [manager?, ha, hself]
    · cases hb : s.table key with
      | none => simp [manager?, hk, hb]
      | some b =>
        have hlt := hcounted.table_lt key b hb
        simp [manager?, hk, hb, hother b (by omega)]
  refine ⟨?_, ?_, ?_, ?_⟩
  · intro j d hd b hb
    rcases hcallers j d hd with ⟨rfl, rfl⟩ | ⟨-, hd⟩
    · cases hb
    · have hlt := hcounted.held_lt j d hd b (Phase.held?_of_locked? (Phase.locked?_of_filled? hb))
      show (t.slots b).content = none
      rw [hother b (by omega)]
      exact h.empty j d hd b hb
  · intro key y
    rw [hmanager]
    show (key, y) ∈ t.stored ↔ _
    rw [hstored]
    exact h.stored key y
  · intro key
    show (t.stored.filter fun e => e.1 = key).length ≤ 1
    rw [hstored]
    exact h.once key
  · intro j d hd y hy
    rw [hmanager]
    rcases hcallers j d hd with ⟨rfl, rfl⟩ | ⟨-, hd⟩
    · cases hy
    · exact h.given j d hd y hy

/-- An empty slot goes out of the table. -/
theorem Kept.release (h : Kept s) (hcounted : Counted s) (hlocked : Locked s) (hc : s.caller? i = some c)
    (hheld : c.phase.held? = some a) (hout : c.phase.locked? = none) : Kept (s.release c.key a) := by
  have hmanager : ∀ key, (s.release c.key a).manager? key = s.manager? key := by
    intro key
    unfold Traffic.release
    split
    · next hr =>
      obtain ⟨ha, hh, hbuilt⟩ := hr
      have howner := hlocked.owner_eq_none hc hheld hout (hcounted.of_release ha hh)
      have hempty : (s.slots a).content = none := by simpa [SharedSlot.isBuilt, howner] using hbuilt
      by_cases hk : key = c.key
      · subst hk
        simp [manager?, ha, hempty]
      · cases hb : s.table key with
        | none => simp [manager?, hk, hb]
        | some b =>
          have hba : b ≠ a := fun he => hk (hcounted.one_key key c.key b hb (he ▸ ha))
          simp [manager?, hk, hb, hba]
    · rfl
  have hcontent : ∀ b, ((s.release c.key a).slots b).content = (s.slots b).content := by
    intro b
    unfold Traffic.release
    split
    · by_cases hba : b = a <;> simp [hba]
    · rfl
  have hstored : (s.release c.key a).stored = s.stored := by
    unfold Traffic.release
    split <;> rfl
  refine ⟨?_, ?_, ?_, ?_⟩
  · intro j d hd b hb
    rw [caller?_release] at hd
    rw [hcontent]
    exact h.empty j d hd b hb
  · intro key y
    rw [hmanager, hstored]
    exact h.stored key y
  · intro key
    rw [hstored]
    exact h.once key
  · intro j d hd y hy
    rw [caller?_release] at hd
    rw [hmanager]
    exact h.given j d hd y hy

/-! ## Every step -/

structure Sound (s : Traffic μ) : Prop where
  counted : Counted s
  locked : Locked s
  kept : Kept s

namespace Sound

theorem start : Sound (Traffic.start : Traffic μ) where
  counted := by
    refine ⟨?_, ?_, ?_, ?_, ?_⟩
    · intro i c h; cases h
    · intro key a h; cases h
    · intro key key' a h; cases h
    · intro key a h; cases h
    · intro i c h; cases h
  locked := by
    intro a i
    constructor
    · intro h; cases h
    · rintro ⟨c, h, -⟩
      cases h
  kept := by
    refine ⟨?_, ?_, ?_, ?_⟩
    · intro i c h; cases h
    · intro key y
      constructor <;> (intro h; cases h)
    · intro key
      exact Nat.zero_le 1
    · intro i c h; cases h

theorem arrive (h : Sound s) (key : SlotKey) (accepts : μ → Bool) : Sound (s.next (.arrive key accepts)) := by
  have hcallers : ∀ {j d}, (s.next (.arrive key accepts)).caller? j = some d →
      s.caller? j = some d ∨ d = ⟨key, accepts, .arrived⟩ := by
    intro j d hd
    simp only [caller?, next, List.getElem?_append] at hd
    split at hd
    · exact .inl hd
    · exact .inr (List.mem_singleton.1 (List.mem_of_getElem? hd))
  have hold : ∀ {j d}, s.caller? j = some d → (s.next (.arrive key accepts)).caller? j = some d := by
    intro j d hd
    obtain ⟨hj, -⟩ := List.getElem?_eq_some_iff.1 hd
    simpa [caller?, next, List.getElem?_append_left hj] using hd
  have hholders : ∀ a, (s.next (.arrive key accepts)).holders a = s.holders a := by
    intro a
    simp [next, holders, List.countP_append, Phase.held?]
  refine ⟨⟨?_, ?_, h.counted.one_key, h.counted.table_lt, ?_⟩, ?_, ⟨?_, h.kept.stored, h.kept.once, ?_⟩⟩
  · intro j d hd a ha
    rcases hcallers hd with hd | rfl
    · exact h.counted.current j d hd a ha
    · cases ha
  · intro key' a ha
    rw [hholders]
    exact h.counted.handles key' a ha
  · intro j d hd a ha
    rcases hcallers hd with hd | rfl
    · exact h.counted.held_lt j d hd a ha
    · cases ha
  · intro a j
    rw [show ((s.next (.arrive key accepts)).slots a).owner = (s.slots a).owner from rfl, h.locked a j]
    constructor
    · rintro ⟨d, hd, hlock⟩
      exact ⟨d, hold hd, hlock⟩
    · rintro ⟨d, hd, hlock⟩
      rcases hcallers hd with hd | rfl
      · exact ⟨d, hd, hlock⟩
      · cases hlock
  · intro j d hd a ha
    rcases hcallers hd with hd | rfl
    · exact h.kept.empty j d hd a ha
    · cases ha
  · intro j d hd y hy
    rcases hcallers hd with hd | rfl
    · exact h.kept.given j d hd y hy
    · cases hy

/-- A step by which only the phase changes, from inside a slot to inside it. -/
theorem inside (h : Sound s) (hc : s.caller? i = some c) (hheld : p.held? = c.phase.held?)
    (hlocked : p.locked? = c.phase.locked?) (hused : ∀ b, p.used? = some b → c.phase.used? = some b)
    (hfilled : ∀ b, p.filled? = some b → (s.slots b).content = none)
    (hgiven : ∀ y, p.given? = some y → s.manager? c.key = some y) : Sound (s.act i c p a (s.slots a)) where
  counted := h.counted.act hc hheld hused rfl
  locked := h.locked.act hc hlocked rfl
  kept := h.kept.act hc rfl hfilled hgiven

/-- The owner of the lock of a slot that a caller is inside of. -/
theorem owner_eq (h : Sound s) (hc : s.caller? i = some c) (hlock : c.phase.locked? = some a) :
    (s.slots a).owner = some i := (h.locked a i).2 ⟨c, hc, hlock⟩

/-- A caller gives a lock back and stays outside. -/
theorem unlock (h : Sound s) (hc : s.caller? i = some c) (hlock : c.phase.locked? = some a) (hheld : p.held? = some a)
    (hout : p.locked? = none) (hused : p.used? = none) (hgiven : ∀ y, p.given? = some y → c.phase.given? = some y) :
    Sound (s.act i c p a { s.slots a with owner := none }) where
  counted := by
    refine h.counted.act hc (by rw [hheld, Phase.held?_of_locked? hlock]) ?_ rfl
    intro b hb
    rw [hused] at hb
    cases hb
  locked := by
    refine h.locked.turn hc ?_ ?_ ?_ ?_
    · intro k hk
      exact Option.some.inj (hk.symm.trans (h.owner_eq hc hlock))
    · intro b hb
      exact Option.some.inj (hb.symm.trans hlock)
    · intro k hk
      cases hk
    · intro b
      simp [hout]
  kept := by
    refine h.kept.act hc rfl ?_ fun y hy => h.kept.given i c hc y (hgiven y hy)
    intro b hb
    rw [Phase.used?_of_filled? hb] at hused
    cases hused

/-- **Every step of a caller keeps the traffic sound.** -/
theorem go (h : Sound s) (hc : s.caller? i = some c) : Sound (s.go i c) := by
  have hgiven := h.kept.given i c hc
  cases hp : c.phase with
  | arrived =>
    have hfree : c.phase.held? = none := by rw [hp]; rfl
    have hout : c.phase.locked? = none := by rw [hp]; rfl
    simp only [Traffic.go, hp, reach]
    cases ha : s.table c.key with
    | some a =>
      refine ⟨h.counted.clone hc hfree ha rfl, h.locked.act hc hout.symm rfl, h.kept.act hc rfl ?_ ?_⟩
      · intro b hb; cases hb
      · intro y hy; cases hy
    | none =>
      have howner : (s.slots s.made).owner = none := by
        cases ho : (s.slots s.made).owner with
        | none => rfl
        | some j =>
          obtain ⟨d, hd, hlock⟩ := (h.locked _ j).1 ho
          exact absurd (h.counted.held_lt j d hd _ (Phase.held?_of_locked? hlock)) (Nat.lt_irrefl _)
      exact ⟨h.counted.make hc hfree ha, h.locked.act hc hout.symm howner.symm, h.kept.make h.counted hc ha⟩
  | waiting a =>
    simp only [Traffic.go, hp]
    cases howner : (s.slots a).owner with
    | some k => exact h
    | none =>
      refine ⟨h.counted.act hc (by rw [hp]; rfl) (by rw [hp]; exact fun b hb => hb) rfl,
        h.locked.turn hc ?_ ?_ ?_ ?_, h.kept.act hc rfl ?_ ?_⟩
      · intro k hk
        rw [howner] at hk
        cases hk
      · intro b hb
        rw [hp] at hb
        cases hb
      · intro k hk
        exact (Option.some.inj hk).symm
      · intro b
        simp [Phase.locked?, eq_comm]
      · intro b hb; cases hb
      · intro y hy; cases hy
  | looking a =>
    simp only [Traffic.go, hp]
    cases hx : (s.slots a).content with
    | some x =>
      refine h.inside hc (by rw [hp]; rfl) (by rw [hp]; rfl) ?_ ?_ ?_
      · intro b hb; cases hb
      · intro b hb; cases hb
      · intro y hy
        have ha := h.counted.current i c hc a (by rw [hp]; rfl)
        split at hy
        · rw [manager?_eq_some]
          exact ⟨a, ha, hx.trans hy⟩
        · cases hy
    | none =>
      refine h.inside hc (by rw [hp]; rfl) (by rw [hp]; rfl) (by rw [hp]; exact fun b hb => hb) ?_ ?_
      · intro b hb
        cases hb
        exact hx
      · intro y hy; cases hy
  | building a =>
    simp only [Traffic.go, hp]
    exact h
  | storing a x =>
    simp only [Traffic.go, hp]
    have hcounted := h.counted.act (p := .leaving a (.ok x)) (x := { s.slots a with content := some x }) (a := a)
      hc (by rw [hp]; rfl) (by intro b hb; cases hb) rfl
    exact ⟨⟨hcounted.current, hcounted.handles, hcounted.one_key, hcounted.table_lt, hcounted.held_lt⟩,
      h.locked.act hc (by rw [hp]; rfl) rfl, h.kept.store h.counted h.locked hc hp⟩
  | leaving a answer =>
    simp only [Traffic.go, hp]
    exact h.unlock hc (by rw [hp]; rfl) rfl rfl rfl (by rw [hp]; exact fun y hy => hy)
  | failing a cause =>
    simp only [Traffic.go, hp]
    exact h.unlock hc (by rw [hp]; rfl) rfl rfl rfl (by intro y hy; cases hy)
  | releasing a cause =>
    simp only [Traffic.go, hp]
    have hheld : c.phase.held? = some a := by rw [hp]; rfl
    have hout : c.phase.locked? = none := by rw [hp]; rfl
    have ht : Sound (s.release c.key a) := ⟨h.counted.release hc hheld (by rw [hp]; rfl), h.locked.release c.key,
      h.kept.release h.counted h.locked hc hheld hout⟩
    refine ht.inside (by rw [caller?_release, hc]) (by rw [hp]; rfl) (by rw [hp]; rfl) ?_ ?_ ?_
    · intro b hb; cases hb
    · intro b hb; cases hb
    · intro y hy; cases hy
  | dropping a answer =>
    simp only [Traffic.go, hp]
    refine ⟨h.counted.drop hc (by rw [hp]; rfl) rfl rfl, h.locked.act hc (by rw [hp]; rfl) rfl,
      h.kept.act hc rfl ?_ ?_⟩
    · intro b hb; cases hb
    · intro y hy
      exact hgiven y (by rw [hp]; exact hy)
  | returned answer =>
    simp only [Traffic.go, hp]
    exact h

/-- However a build ends, the traffic stays sound. -/
theorem finish (h : Sound s) (hc : s.caller? i = some c) (outcome : Except Setback μ) : Sound (s.finish i c outcome) := by
  unfold Traffic.finish
  split
  · next a hp =>
    have hempty := h.kept.empty i c hc a (by rw [hp]; rfl)
    rcases outcome with (cause | -) | x
    · refine h.inside hc (by rw [hp]; rfl) (by rw [hp]; rfl) ?_ ?_ ?_ <;> (intro b hb; cases hb)
    · refine h.inside hc (by rw [hp]; rfl) (by rw [hp]; rfl) ?_ ?_ ?_ <;> (intro b hb; cases hb)
    · refine h.inside hc (by rw [hp]; rfl) (by rw [hp]; rfl) (by rw [hp]; exact fun b hb => hb) ?_ ?_
      · intro b hb
        cases hb
        exact hempty
      · intro y hy; cases hy
  · exact h

theorem next (h : Sound s) (m : Move μ) : Sound (s.next m) := by
  cases m with
  | arrive key accepts => exact h.arrive key accepts
  | go i =>
    simp only [Traffic.next]
    split
    · next c hc => exact h.go hc
    · exact h
  | finish i outcome =>
    simp only [Traffic.next]
    split
    · next c hc => exact h.finish hc outcome
    · exact h

theorem after (h : Sound s) (moves : List (Move μ)) : Sound (s.after moves) := by
  induction moves generalizing s with
  | nil => exact h
  | cons m moves ih => exact ih (h.next m)

theorem run (moves : List (Move μ)) : Sound (Traffic.run moves) := start.after moves

end Sound

end Traffic

end TypedStorage
