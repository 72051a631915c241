/-
Calls one after another. A call that nobody comes between does to the shared slots what `Registry.tryGet` does to
the registry, and gets its answer (`alone_eq_tryGet`): the atomic steps are what the registry's own call is cut into.
-/
import TypedStorage.Proofs.Registry.Sound

namespace TypedStorage

variable {σ μ τ : Type} {typeOf : μ → τ} [DecidableEq τ]

/-! ## What one call comes to -/

/-- The answer of a call that finds a manager or none, and builds in the second case. -/
def answered (name : String) (accepts : μ → Bool) (found : Option μ) (outcome : Except Setback μ) : Except Setback μ :=
  match found with
  | some x => if accepts x then .ok x else .error (wrongType name)
  | none => outcome

/-- The slot that the call leaves. -/
def settled (found : Option μ) (outcome : Except Setback μ) : Option (Option μ) :=
  match found, outcome with
  | some x, _ => some (some x)
  | none, .ok x => some (some x)
  | none, .error (.failed _) => none
  | none, .error .brokeOff => some none

theorem tryGet_answered (p : Plan σ typeOf) (r : Registry μ) (w : σ × History μ) : (Registry.tryGet p.offer (r, w)).1 =
    answered p.name (fun x => typeOf x = p.type) (r.manager? p.kind p.name) (p.outcome w.1) := by
  cases hx : r.manager? p.kind p.name with
  | some x =>
    rw [tryGet_built hx]
    simp only [answered, decide_eq_true_eq]
    split <;> rfl
  | none =>
    rw [tryGet_unbuilt hx]
    rfl

theorem slot?_tryGet (p : Plan σ typeOf) (r : Registry μ) (w : σ × History μ) (kind : ManagerKind) (name : String) :
    (Registry.tryGet p.offer (r, w)).2.1.slot? kind name =
      if (kind, name) = p.key then settled (r.manager? p.kind p.name) (p.outcome w.1) else r.slot? kind name := by
  cases hx : r.manager? p.kind p.name with
  | some x =>
    have hsame : (Registry.tryGet p.offer (r, w)).2.1 = r := by
      rw [tryGet_built hx]
      split <;> rfl
    rw [hsame]
    split
    · next hk =>
      cases hk
      rw [Registry.manager?_eq, Option.join_eq_some_iff] at hx
      rw [hx]
      rfl
    · rfl
  | none =>
    rw [tryGet_unbuilt hx]
    show (Agrees.afterBuild r p.kind p.name _).slot? kind name = _
    rw [Agrees.slot?_afterBuild hx]
    unfold Plan.key
    split
    · rcases p.outcome w.1 with (e | -) | x <;> rfl
    · rfl

namespace Traffic

variable {s : Traffic μ} {r : Registry μ} {c : Caller μ} {key : SlotKey} {accepts : μ → Bool} {a : Nat}

/-- The slots of the table are those of the registry. -/
def Shows (s : Traffic μ) (r : Registry μ) : Prop :=
  ∀ kind name, r.slot? kind name = (s.table (kind, name)).map fun a => (s.slots a).content

/-- All calls are over. -/
def Quiet (s : Traffic μ) : Prop := ∀ c ∈ s.callers, ∃ answer, c.phase = .returned answer

/-- The steps that a call takes with its slot, alone; there are enough of them for every end of the build. -/
def insideMoves (i : Nat) (outcome : Except Setback μ) : List (Move μ) :=
  [.go i, .go i, .finish i outcome, .go i, .go i, .go i]

/-- The moves of one more call, from its arrival to its answer. -/
def aloneMoves (s : Traffic μ) (key : SlotKey) (accepts : μ → Bool) (outcome : Except Setback μ) : List (Move μ) :=
  .arrive key accepts :: .go s.callers.length :: insideMoves s.callers.length outcome

def alone (s : Traffic μ) (key : SlotKey) (accepts : μ → Bool) (outcome : Except Setback μ) : Traffic μ :=
  s.after (s.aloneMoves key accepts outcome)

/-- Traffic with one more caller. -/
def withCaller (s : Traffic μ) (c : Caller μ) : Traffic μ := { s with callers := s.callers ++ [c] }

/-- What a call does that has the slot of its key, where no other has it. -/
theorem after_insideMoves (accepts : μ → Bool) {found : Option μ} (ha : s.table key = some a)
    (hfound : s.slots a = ⟨found, none, 2⟩) (outcome : Except Setback μ) : ∃ t : Traffic μ,
    (s.withCaller ⟨key, accepts, .waiting a⟩).after (insideMoves s.callers.length outcome) =
        t.withCaller ⟨key, accepts, .returned (answered key.2 accepts found outcome)⟩ ∧
      t.callers = s.callers ∧ (∀ key', key' ≠ key → t.table key' = s.table key') ∧
      (∀ b, b ≠ a → t.slots b = s.slots b) ∧ (t.table key).map (fun b => (t.slots b).content) = settled found outcome := by
  cases found with
  | some x =>
    refine ⟨{ s with slots := Function.update s.slots a ⟨some x, none, 1⟩ }, ?_, rfl, fun _ _ => rfl, ?_, ?_⟩
    · simp [after, insideMoves, next, caller?, go, finish, act, withCaller, hfound, answered]
    · intro b hb
      simp [hb]
    · simp [ha, settled]
  | none =>
    rcases outcome with (e | -) | x
    · refine ⟨{ s with table := Function.update s.table key none, slots := Function.update s.slots a ⟨none, none, 0⟩ },
        ?_, rfl, ?_, ?_, ?_⟩
      · simp [after, insideMoves, next, caller?, go, finish, act, withCaller, release, SharedSlot.isBuilt, ha, hfound,
          answered]
      · intro key' hk
        simp [hk]
      · intro b hb
        simp [hb]
      · simp [settled]
    · refine ⟨{ s with slots := Function.update s.slots a ⟨none, none, 1⟩ }, ?_, rfl, fun _ _ => rfl, ?_, ?_⟩
      · simp [after, insideMoves, next, caller?, go, finish, act, withCaller, hfound, answered]
      · intro b hb
        simp [hb]
      · simp [ha, settled]
    · refine ⟨{ s with slots := Function.update s.slots a ⟨some x, none, 1⟩, stored := s.stored ++ [(key, x)] },
        ?_, rfl, fun _ _ => rfl, ?_, ?_⟩
      · simp [after, insideMoves, next, caller?, go, finish, act, withCaller, hfound, answered]
      · intro b hb
        simp [hb]
      · simp [ha, settled]

/-! ## From one quiet state to the next -/

/-- While nothing moves nobody has a slot. -/
theorem Quiet.idle (hq : s.Quiet) (h : Sound s) {key : SlotKey} {a : Nat} (ha : s.table key = some a) :
    s.slots a = ⟨s.manager? key, none, 1⟩ := by
  have hphase : ∀ c ∈ s.callers, c.phase.held? = none := by
    intro c hc
    obtain ⟨answer, hp⟩ := hq c hc
    rw [hp]
    rfl
  have hholders : s.holders a = 0 := by
    rw [holders, List.countP_eq_zero]
    intro c hc
    simp [hphase c hc]
  have hhandles := h.counted.handles key a ha
  have howner : (s.slots a).owner = none := by
    cases ho : (s.slots a).owner with
    | none => rfl
    | some i =>
      obtain ⟨c, hc, hlock⟩ := (h.locked a i).1 ho
      have := Phase.held?_of_locked? hlock
      rw [hphase c (List.mem_of_getElem? hc)] at this
      cases this
  have hcontent : (s.slots a).content = s.manager? key := by rw [manager?, ha]; rfl
  rw [hholders, Nat.zero_add] at hhandles
  rw [← hcontent, ← howner, ← hhandles]

/-- A caller that arrives alone gets to the slot of its key, and nothing else is different. -/
theorem Quiet.arrive (hq : s.Quiet) (h : Sound s) (key : SlotKey) (accepts : μ → Bool) : ∃ (t : Traffic μ) (a : Nat),
    (s.next (.arrive key accepts)).next (.go s.callers.length) = t.withCaller ⟨key, accepts, .waiting a⟩ ∧
      t.callers = s.callers ∧ t.table key = some a ∧ t.slots a = ⟨s.manager? key, none, 2⟩ ∧
      ∀ key', key' ≠ key → t.table key' = s.table key' ∧ ∀ b, s.table key' = some b → b ≠ a ∧ t.slots b = s.slots b := by
  cases ha : s.table key with
  | some a =>
    have hidle := hq.idle h ha
    refine ⟨{ s with slots := Function.update s.slots a ⟨s.manager? key, none, 2⟩ }, a, ?_, rfl, ha, by simp, ?_⟩
    · simp [next, caller?, go, reach, act, withCaller, ha, hidle]
    · intro key' hne
      refine ⟨rfl, fun b hb => ?_⟩
      have hba : b ≠ a := fun he => hne (h.counted.one_key key' key b hb (he ▸ ha))
      exact ⟨hba, by simp [hba]⟩
  | none =>
    have hn : s.manager? key = none := by rw [manager?, ha]; rfl
    refine ⟨{ s with table := Function.update s.table key (some s.made), made := s.made + 1
                     slots := Function.update s.slots s.made ⟨none, none, 2⟩ }, s.made, ?_, rfl, by simp, by simp [hn], ?_⟩
    · simp [next, caller?, go, reach, act, withCaller, ha]
    · intro key' hne
      refine ⟨by simp [hne], fun b hb => ?_⟩
      have hba : b ≠ s.made := Nat.ne_of_lt (h.counted.table_lt key' b hb)
      exact ⟨hba, by simp [hba]⟩

/--
**A call that nobody comes between is `tryGet`.** It takes one quiet state to the next, changes the slots as the
registry does, and gets the registry's answer.
-/
theorem alone_eq_tryGet (h : Sound s) (hq : s.Quiet) (hr : s.Shows r) (p : Plan σ typeOf) (w : σ × History μ) :
    (s.alone p.key (fun x => typeOf x = p.type) (p.outcome w.1)).Quiet ∧
      (s.alone p.key (fun x => typeOf x = p.type) (p.outcome w.1)).Shows (Registry.tryGet p.offer (r, w)).2.1 ∧
      (s.alone p.key (fun x => typeOf x = p.type) (p.outcome w.1)).callers =
        s.callers ++ [⟨p.key, fun x => typeOf x = p.type, .returned (Registry.tryGet p.offer (r, w)).1⟩] := by
  obtain ⟨t, a, ht, hcallers, ha, hslot, hother⟩ := hq.arrive h p.key fun x => typeOf x = p.type
  obtain ⟨u, hu, hucallers, hutable, huslots, hukey⟩ :=
    after_insideMoves (fun x => typeOf x = p.type) ha hslot (p.outcome w.1)
  have halone : s.alone p.key (fun x => typeOf x = p.type) (p.outcome w.1) = u.withCaller
      ⟨p.key, fun x => typeOf x = p.type,
        .returned (answered p.key.2 (fun x => typeOf x = p.type) (s.manager? p.key) (p.outcome w.1))⟩ := by
    rw [← hu, hcallers, ← ht]
    rfl
  have hmanager : r.manager? p.kind p.name = s.manager? p.key := by
    rw [Registry.manager?_eq, hr, manager?]
    show Option.join (Option.map _ (s.table p.key)) = _
    cases s.table p.key <;> rfl
  rw [halone, tryGet_answered, hmanager]
  refine ⟨?_, ?_, ?_⟩
  · intro c hc
    rcases List.mem_append.1 hc with hc | hc
    · exact hq c (hcallers ▸ hucallers ▸ hc)
    · rw [List.mem_singleton.1 hc]
      exact ⟨_, rfl⟩
  · intro kind name
    rw [slot?_tryGet, hmanager]
    split
    · next hk =>
      rw [hk]
      exact hukey.symm
    · next hk =>
      -- other keys have other slots
      obtain ⟨htable, hslots⟩ := hother (kind, name) hk
      show r.slot? kind name = (u.table (kind, name)).map fun b => (u.slots b).content
      rw [hr, hutable _ hk, htable]
      cases hb : s.table (kind, name) with
      | none => rfl
      | some b =>
        obtain ⟨hba, hs⟩ := hslots b hb
        simp [huslots b hba, hs]
  · show u.callers ++ _ = _
    rw [hucallers, hcallers]
    rfl

end Traffic

end TypedStorage
