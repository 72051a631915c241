/-
One manager for each key, however calls interleave. `sharing_run` is the result: after every schedule, whoever may
still read or build through a slot holds the slot that its key has now, at most one manager was stored under a key
and it stays there, all calls that got a manager for a key got that one, and a call that nobody comes between does
what the registry does by itself.
-/
import TypedStorage.Proofs.Registry.Alone

namespace TypedStorage

namespace Traffic

variable {μ : Type} {s : Traffic μ} {i : Nat} {c : Caller μ}

/-! ## What is promised -/

theorem stored_go (s : Traffic μ) (i : Nat) (c : Caller μ) : s.stored <+: (s.go i c).stored := by
  have hreach : (s.reach i c).stored = s.stored := by
    unfold reach
    split <;> rfl
  have hrelease : ∀ a, (s.release c.key a).stored = s.stored := by
    intro a
    unfold release
    split <;> rfl
  cases hp : c.phase with
  | arrived => simp [go, hp, hreach]
  | waiting a =>
    simp only [go, hp]
    split <;> exact List.prefix_rfl
  | looking a =>
    simp only [go, hp]
    split <;> exact List.prefix_rfl
  | storing a x => simp [go, hp, act]
  | releasing a cause => simp [go, hp, act, hrelease]
  | _ => simp [go, hp, act]

/-- What is written down stays written down. -/
theorem stored_next (s : Traffic μ) (m : Move μ) : s.stored <+: (s.next m).stored := by
  cases m with
  | arrive key accepts => exact List.prefix_rfl
  | go i =>
    simp only [next]
    split
    · exact stored_go s i _
    · exact List.prefix_rfl
  | finish i outcome =>
    simp only [next]
    split
    · unfold finish
      split
      · rcases outcome with (cause | -) | x <;> exact List.prefix_rfl
      · exact List.prefix_rfl
    · exact List.prefix_rfl

theorem stored_after (s : Traffic μ) (moves : List (Move μ)) : s.stored <+: (s.after moves).stored := by
  induction moves generalizing s with
  | nil => exact List.prefix_rfl
  | cons m moves ih => exact (stored_next s m).trans (ih (s.next m))

/-- A manager that is stored is never removed or replaced. -/
theorem Sound.manager?_after (h : Sound s) {key : SlotKey} {x : μ} (hx : s.manager? key = some x)
    (moves : List (Move μ)) : (s.after moves).manager? key = some x := by
  rw [← (h.after moves).kept.stored]
  exact (stored_after s moves).subset ((h.kept.stored key x).2 hx)

/-- What holds of a registry that many use at once. -/
structure Shared (s : Traffic μ) : Prop where
  /-- Whoever may still read or build through a slot holds the slot that the key has now. -/
  current : ∀ i c, s.caller? i = some c → ∀ a, c.phase.used? = some a → s.table c.key = some a
  /-- At most one manager was ever stored under a key. -/
  once : ∀ key, (s.stored.filter fun e => e.1 = key).length ≤ 1
  /-- What was stored is there. -/
  there : ∀ key x, (key, x) ∈ s.stored ↔ s.manager? key = some x
  /-- What is there stays there, whoever moves next. -/
  stays : ∀ key x, s.manager? key = some x → ∀ moves, (s.after moves).manager? key = some x
  /-- A manager that a call got is the one that is stored. -/
  answer : ∀ i c x, s.caller? i = some c → c.phase = .returned (.ok x) → s.manager? c.key = some x
  /-- All calls for a key that got a manager, now or later, got the same one. -/
  same : ∀ i c x, s.caller? i = some c → c.phase = .returned (.ok x) → ∀ moves j d y,
    (s.after moves).caller? j = some d → d.key = c.key → d.phase = .returned (.ok y) → y = x
  /-- While nobody else is there, a call does to the slots and is answered what the registry says. -/
  alone : s.Quiet → ∀ {σ τ : Type} [DecidableEq τ] {typeOf : μ → τ} (p : Plan σ typeOf) (w : σ × History μ)
    (r : Registry μ), s.Shows r → let t := s.alone p.key (fun x => typeOf x = p.type) (p.outcome w.1)
      t.Quiet ∧ t.Shows (Registry.tryGet p.offer (r, w)).2.1 ∧ t.callers =
        s.callers ++ [⟨p.key, fun x => typeOf x = p.type, .returned (Registry.tryGet p.offer (r, w)).1⟩]

theorem Sound.answer (h : Sound s) {y : μ} (hc : s.caller? i = some c) (hp : c.phase = .returned (.ok y)) :
    s.manager? c.key = some y := h.kept.given i c hc y (by rw [hp]; rfl)

/--
**A registry builds one manager for each key, however calls interleave.** The schedule is any sequence of arrivals,
steps and ends of builds; the builds may end with any managers, so also with ones that are all different.
-/
theorem sharing_run (moves : List (Move μ)) : Shared (run moves) where
  current := (Sound.run moves).counted.current
  once := (Sound.run moves).kept.once
  there := (Sound.run moves).kept.stored
  stays _ _ hx := (Sound.run moves).manager?_after hx
  answer _ _ _ hc hp := (Sound.run moves).answer hc hp
  same := by
    intro i c x hc hp more j d y hd hkey hq
    have hx := (Sound.run moves).manager?_after ((Sound.run moves).answer hc hp) more
    have hy := ((Sound.run moves).after more).answer hd hq
    rw [hkey, hx] at hy
    exact (Option.some.inj hy).symm
  alone hq _ _ _ _ p w _ hr := alone_eq_tryGet (Sound.run moves) hq hr p w

/-- A second caller comes between a failure and the end of its slot; the slot stays, and a third caller shares it. -/
example :
    let key : SlotKey := (.files, "a")
    let moves : List (Move Nat) := [.arrive key fun _ => true, .arrive key fun _ => true, .go 0, .go 0, .go 0,
      .finish 0 (.error (.failed (.internal ""))), .go 0, .go 1, .go 0, .go 0, .go 1, .go 1, .finish 1 (.ok 7), .go 1,
      .arrive key fun _ => true, .go 2, .go 1, .go 2, .go 2, .go 2, .go 2]
    ((run moves).manager? key, (run moves).made) = (some 7, 1) := by decide

end Traffic

end TypedStorage
