/-
Runs of a registry, told by the history of its builds. `account_run` is the result: after any sequence of calls,
whatever the builds did, everything the registry says and does next is what the history says. The history is an
observer; the registry never looks at it, and the builds write down only that they were run.

The builds here do not use the registry themselves. Managers have a type, and a build makes a manager of the type
it was asked for, which is all that is assumed of one.
-/
import TypedStorage.Proofs.Registry.Slots

namespace TypedStorage

abbrev SlotKey := ManagerKind × String

/-! ## Histories -/

/-- One run of a build, and how it ended. -/
structure Build (μ : Type) where
  key : SlotKey
  outcome : Except Setback μ

abbrev History (μ : Type) := List (Build μ)

namespace History

variable {μ : Type}

/-- The builds of a key that have made a manager. -/
def successes (h : History μ) (key : SlotKey) : History μ := h.filter fun b => b.key = key ∧ b.outcome.toOption.isSome

/-- The manager that was built under a key. -/
def built? (h : History μ) (key : SlotKey) : Option μ := (h.successes key).head?.bind (·.outcome.toOption)

/-- The latest build of a key broke off. -/
def brokeOff (h : History μ) (key : SlotKey) : Bool :=
  match (h.filter (·.key = key)).getLast? with
  | some ⟨_, .error .brokeOff⟩ => true
  | _ => false

/-- The keys that were built, well or not. -/
def keys (h : History μ) : Finset SlotKey := (h.map Build.key).toFinset

/-- The slot that a key should have. -/
def slot? (h : History μ) (key : SlotKey) : Option (Option μ) :=
  match h.built? key with
  | some x => some (some x)
  | none => if h.brokeOff key then some none else none

end History

/-! ## Calls -/

variable {σ μ τ : Type} {typeOf : μ → τ} [DecidableEq τ]

/-- What a registry can be asked for: a kind, a name and a type, and a build that makes managers of the type. -/
structure Plan (σ : Type) (typeOf : μ → τ) where
  kind : ManagerKind
  name : String
  type : τ
  make : σ → Except Setback { x : μ // typeOf x = type } × σ

/-- A registry, the world that builds happen in, and the builds so far. -/
abbrev Course (σ μ : Type) := Registry μ × (σ × History μ)

namespace Plan

def key (p : Plan σ typeOf) : SlotKey := (p.kind, p.name)

/-- How the build ends in a world. -/
def outcome (p : Plan σ typeOf) (s : σ) : Except Setback μ := (p.make s).1.map Subtype.val

/-- The world and the history after one more build. -/
def built (p : Plan σ typeOf) (w : σ × History μ) : σ × History μ := ((p.make w.1).2, w.2 ++ [⟨p.key, p.outcome w.1⟩])

/-- The plan as it is offered to a registry. Its build leaves the registry alone. -/
def offer (p : Plan σ typeOf) : Offer (σ × History μ) μ :=
  ⟨p.kind, p.name, fun x => typeOf x = p.type, fun (r, w) => (p.outcome w.1, (r, p.built w))⟩

end Plan

inductive Call (σ : Type) (typeOf : μ → τ) where
  | tryGet (p : Plan σ typeOf)
  | get (p : Plan σ typeOf)
  | contains (kind : ManagerKind) (name : String)
  | names (kind : ManagerKind)
  | slotCount

/-- The course after a call; a question changes nothing. -/
def Call.step (c : Course σ μ) : Call σ typeOf → Course σ μ
  | .tryGet p => (Registry.tryGet p.offer c).2
  | .get p => (Registry.get p.offer c).2
  | _ => c

/-- The course after a sequence of calls, from an empty registry. -/
def Course.run (s : σ) (calls : List (Call σ typeOf)) : Course σ μ := calls.foldl Call.step (.empty, (s, []))

/-! ## What is promised -/

def wrongType (name : String) : Setback :=
  .failed (.internal ("'" ++ name ++ "' is registered with a different manager type"))

/-- What a registry does next, by the history of its builds. -/
structure Account (typeOf : μ → τ) (c : Course σ μ) : Prop where
  /-- No key is built twice. -/
  once : ∀ key, (c.2.2.successes key).length ≤ 1
  /-- A manager that is built is given out again, and nothing is built. -/
  same : ∀ (p : Plan σ typeOf) (x : μ), c.2.2.built? p.key = some x → typeOf x = p.type →
    Registry.tryGet p.offer c = (.ok x, c)
  /-- Where a manager of another type is built, nothing is given out and nothing changes. -/
  other : ∀ (p : Plan σ typeOf) (x : μ), c.2.2.built? p.key = some x → typeOf x ≠ p.type →
    Registry.tryGet p.offer c = (.error (wrongType p.name), c)
  /-- Where none is built the build is run, once, and how it ends is the answer. -/
  again : ∀ p : Plan σ typeOf, c.2.2.built? p.key = none →
    (Registry.tryGet p.offer c).1 = p.outcome c.2.1 ∧ (Registry.tryGet p.offer c).2.2 = p.built c.2
  /-- A failure is read as nothing; otherwise it is the same to get a manager either way. -/
  get : ∀ p : Plan σ typeOf, (Registry.get p.offer c).2 = (Registry.tryGet p.offer c).2 ∧
    (Registry.get p.offer c).1 = match (Registry.tryGet p.offer c).1 with
      | .ok x => .ok (some x)
      | .error (.failed _) => .ok none
      | .error .brokeOff => .error .brokeOff
  /-- What is there is what was built. -/
  contains : ∀ kind name, c.1.contains kind name = (c.2.2.built? (kind, name)).isSome
  /-- The names are those of what was built, each once and in order. -/
  names : ∀ kind, (c.1.names kind).Pairwise (· < ·) ∧
    ∀ name, name ∈ c.1.names kind ↔ (c.2.2.built? (kind, name)).isSome
  /-- There is a slot for each key that was built, and one for each that was not and broke off last. -/
  slotCount : c.1.slotCount = (c.2.2.keys.filter fun key => (c.2.2.built? key).isSome).card
    + (c.2.2.keys.filter fun key => c.2.2.built? key = none ∧ c.2.2.brokeOff key).card
  /-- No other key is affected. -/
  frame : ∀ (p : Plan σ typeOf) kind name, (kind, name) ≠ p.key →
    (Registry.tryGet p.offer c).2.1.slot? kind name = c.1.slot? kind name

/-! ## One more build -/

namespace History

theorem successes_append (h : History μ) (b : Build μ) (key : SlotKey) :
    successes (h ++ [b]) key = h.successes key ++ if b.key = key ∧ b.outcome.toOption.isSome then [b] else [] := by
  rw [successes, List.filter_append]
  by_cases hb : b.key = key ∧ b.outcome.toOption.isSome <;> simp [successes, hb]

theorem built?_eq_none_iff {h : History μ} {key : SlotKey} : h.built? key = none ↔ h.successes key = [] := by
  constructor
  · intro hn
    cases hs : h.successes key with
    | nil => rfl
    | cons b bs =>
      have hb : b ∈ h.successes key := by simp [hs]
      simp only [successes, List.mem_filter, decide_eq_true_eq] at hb
      rw [built?, hs] at hn
      simp only [List.head?_cons, Option.bind_some] at hn
      rw [hn] at hb
      cases hb.2.2
  · intro hs
    rw [built?, hs]
    rfl

theorem built?_append_other (h : History μ) {b : Build μ} {key : SlotKey} (hne : b.key ≠ key) :
    built? (h ++ [b]) key = h.built? key := by
  rw [built?, successes_append, if_neg fun hb => hne hb.1, List.append_nil, built?]

/-- The first build that makes a manager makes the one. -/
theorem built?_append_self {h : History μ} {key : SlotKey} (hn : h.built? key = none) (outcome : Except Setback μ) :
    built? (h ++ [⟨key, outcome⟩]) key = outcome.toOption := by
  rw [built?, successes_append, built?_eq_none_iff.1 hn, List.nil_append]
  cases outcome <;> simp [Except.toOption]

theorem brokeOff_append_other (h : History μ) {b : Build μ} {key : SlotKey} (hne : b.key ≠ key) :
    brokeOff (h ++ [b]) key = h.brokeOff key := by
  rw [brokeOff, List.filter_append]
  simp [hne, brokeOff]

theorem brokeOff_append_self (h : History μ) (key : SlotKey) (outcome : Except Setback μ) :
    brokeOff (h ++ [⟨key, outcome⟩]) key = match outcome with
      | .error .brokeOff => true
      | _ => false := by
  rw [brokeOff, List.filter_append]
  simp only [decide_true, List.filter_cons_of_pos, List.filter_nil, List.getLast?_append, List.getLast?_singleton,
    Option.some_or]
  cases outcome with
  | ok x => rfl
  | error e => cases e <;> rfl

theorem slot?_append_other (h : History μ) {b : Build μ} {key : SlotKey} (hne : b.key ≠ key) :
    slot? (h ++ [b]) key = h.slot? key := by
  rw [slot?, built?_append_other h hne, brokeOff_append_other h hne, slot?]

end History

/-! ## The invariant -/

/-- The slots are those of the history, and it has no key built twice. -/
structure Agrees (r : Registry μ) (h : History μ) : Prop where
  slot : ∀ kind name, r.slot? kind name = h.slot? (kind, name)
  once : ∀ key, (h.successes key).length ≤ 1

namespace Agrees

variable {r : Registry μ} {h : History μ}

theorem start : Agrees (.empty : Registry μ) [] := ⟨fun _ _ => rfl, fun _ => Nat.zero_le 1⟩

theorem manager?_eq (ha : Agrees r h) (kind : ManagerKind) (name : String) :
    r.manager? kind name = h.built? (kind, name) := by
  rw [Registry.manager?_eq, ha.slot, History.slot?]
  cases h.built? (kind, name) with
  | some x => rfl
  | none => cases h.brokeOff (kind, name) <;> rfl

/-- The registry after a build under a key where nothing was built. -/
def afterBuild (r : Registry μ) (kind : ManagerKind) (name : String) : Except Setback μ → Registry μ
  | .ok x => (r.reserve kind name).fill kind name x
  | .error (.failed _) => (r.reserve kind name).release kind name
  | .error .brokeOff => r.reserve kind name

theorem slot?_afterBuild (hn : r.manager? kind name = none) (outcome : Except Setback μ) (kind' : ManagerKind)
    (name' : String) :
    (afterBuild r kind name outcome).slot? kind' name' =
      if (kind', name') = (kind, name) then
        match outcome with
        | .ok x => some (some x)
        | .error (.failed _) => none
        | .error .brokeOff => some none
      else r.slot? kind' name' := by
  have hr : (r.reserve kind name).manager? kind name = none := by rw [Registry.manager?_reserve, hn]
  rcases outcome with (e | -) | x
  · rw [afterBuild, Registry.slot?_release _ hr, Registry.slot?_reserve]
    split <;> rfl
  · rw [afterBuild, Registry.slot?_reserve, hn]
  · rw [afterBuild, Registry.slot?_fill, Registry.slot?_reserve]
    split <;> rfl

/-- A build where nothing was built keeps slots and history together. -/
theorem afterBuild_append (ha : Agrees r h) {kind : ManagerKind} {name : String} (hn : h.built? (kind, name) = none)
    (outcome : Except Setback μ) : Agrees (afterBuild r kind name outcome) (h ++ [⟨(kind, name), outcome⟩]) where
  slot kind' name' := by
    rw [slot?_afterBuild (by rw [ha.manager?_eq, hn])]
    split
    · next he =>
      rw [he, History.slot?, History.built?_append_self hn, History.brokeOff_append_self]
      rcases outcome with (e | -) | x <;> rfl
    · next hne => rw [ha.slot, History.slot?_append_other h (Ne.symm hne)]
  once key := by
    rw [History.successes_append]
    split
    · next hb =>
      rw [← hb.1, History.built?_eq_none_iff.1 hn]
      exact Nat.le_refl 1
    · rw [List.append_nil]
      exact ha.once key

end Agrees

/-! ## One call -/

theorem tryGet_built {r : Registry μ} {w : σ × History μ} {p : Plan σ typeOf} {x : μ}
    (h : r.manager? p.kind p.name = some x) :
    Registry.tryGet p.offer (r, w) =
      if typeOf x = p.type then (.ok x, (r, w)) else (.error (wrongType p.name), (r, w)) := by
  unfold Registry.tryGet
  simp only [Plan.offer, h, decide_eq_true_eq, wrongType]

theorem tryGet_unbuilt {r : Registry μ} {w : σ × History μ} {p : Plan σ typeOf} (h : r.manager? p.kind p.name = none) :
    Registry.tryGet p.offer (r, w) =
      (p.outcome w.1, (Agrees.afterBuild r p.kind p.name (p.outcome w.1), p.built w)) := by
  unfold Registry.tryGet
  simp only [Plan.offer, h]
  rcases p.outcome w.1 with (e | -) | x <;> rfl

/-- Getting a manager differs from trying to only in how a failure is told. -/
theorem get_eq (o : Offer σ μ) (c : Registry μ × σ) : Registry.get o c =
    (match (Registry.tryGet o c).1 with
      | .ok x => .ok (some x)
      | .error (.failed _) => .ok none
      | .error .brokeOff => .error .brokeOff, (Registry.tryGet o c).2) := by
  unfold Registry.get
  rcases Registry.tryGet o c with ⟨(e | -) | x, c'⟩ <;> rfl

namespace Agrees

theorem tryGet {c : Course σ μ} (ha : Agrees c.1 c.2.2) (p : Plan σ typeOf) :
    Agrees (Registry.tryGet p.offer c).2.1 (Registry.tryGet p.offer c).2.2.2 := by
  obtain ⟨r, w⟩ := c
  cases hm : r.manager? p.kind p.name with
  | some x =>
    rw [tryGet_built hm]
    split <;> exact ha
  | none =>
    rw [tryGet_unbuilt hm]
    exact ha.afterBuild_append (by rw [← ha.manager?_eq, hm]) _

/-- **Every call keeps slots and history together.** -/
theorem step {c : Course σ μ} (ha : Agrees c.1 c.2.2) (call : Call σ typeOf) :
    Agrees (call.step c).1 (call.step c).2.2 := by
  cases call with
  | tryGet p => exact ha.tryGet p
  | get p =>
    rw [Call.step, get_eq]
    exact ha.tryGet p
  | contains kind name => exact ha
  | names kind => exact ha
  | slotCount => exact ha

theorem run (s : σ) (calls : List (Call σ typeOf)) : Agrees (Course.run s calls).1 (Course.run s calls).2.2 := by
  unfold Course.run
  generalize hc : ((.empty, (s, [])) : Course σ μ) = c
  have ha : Agrees c.1 c.2.2 := by
    subst hc
    exact start
  clear hc
  induction calls generalizing c with
  | nil => exact ha
  | cons call calls ih => exact ih _ (ha.step call)

/-! ## The account -/

/-- A key has a slot where it was built, or was not and broke off last. -/
theorem slot?_isSome (h : History μ) (key : SlotKey) :
    (h.slot? key).isSome ↔ (h.built? key).isSome ∨ (h.built? key = none ∧ h.brokeOff key) := by
  unfold History.slot?
  cases h.built? key with
  | some x => simp
  | none => cases h.brokeOff key <;> simp

theorem mem_keys_of_slot? {h : History μ} {key : SlotKey} (hs : (h.slot? key).isSome) : key ∈ h.keys := by
  rw [History.keys, List.mem_toFinset, List.mem_map]
  by_contra hne
  have hfilter : h.filter (·.key = key) = [] := by
    rw [List.filter_eq_nil_iff]
    intro b hb he
    exact hne ⟨b, hb, by simpa using he⟩
  have hsuccesses : h.successes key = [] := by
    rw [History.successes, List.filter_eq_nil_iff]
    intro b hb he
    exact hne ⟨b, hb, by simpa using (of_decide_eq_true he).1⟩
  rw [History.slot?, History.built?_eq_none_iff.2 hsuccesses, History.brokeOff, hfilter] at hs
  cases hs

theorem slotCount_eq {r : Registry μ} {h : History μ} (ha : Agrees r h) : r.slotCount =
    (h.keys.filter fun key => (h.built? key).isSome).card
      + (h.keys.filter fun key => h.built? key = none ∧ h.brokeOff key).card := by
  rw [r.slotCount_eq, ← Finset.card_union_of_disjoint]
  · congr 1
    ext ⟨kind, name⟩
    rw [List.mem_toFinset, Registry.mem_keys, ha.slot, slot?_isSome, Finset.mem_union, Finset.mem_filter, Finset.mem_filter]
    constructor
    · intro hs
      have hk := mem_keys_of_slot? ((slot?_isSome h _).2 hs)
      exact hs.imp (fun h => ⟨hk, h⟩) fun h => ⟨hk, h⟩
    · exact fun hs => hs.imp (·.2) (·.2)
  · rw [Finset.disjoint_filter]
    intro key _ hb hn
    rw [hn.1] at hb
    cases hb

/-- Where slots and history agree, the history says what comes next. -/
theorem account {c : Course σ μ} (ha : Agrees c.1 c.2.2) : Account typeOf c where
  once := ha.once
  same p x hx ht := by
    rw [tryGet_built (x := x) (by rw [ha.manager?_eq]; exact hx), if_pos ht]
  other p x hx ht := by
    rw [tryGet_built (x := x) (by rw [ha.manager?_eq]; exact hx), if_neg ht]
  again p hn := by
    rw [tryGet_unbuilt (by rw [ha.manager?_eq]; exact hn)]
    exact ⟨rfl, rfl⟩
  get p := by
    rw [get_eq]
    exact ⟨rfl, rfl⟩
  contains kind name := by rw [Registry.contains, ha.manager?_eq]
  names kind := ⟨c.1.pairwise_names, fun name => by rw [Registry.mem_names, ha.manager?_eq]⟩
  slotCount := ha.slotCount_eq
  frame p kind name hne := by
    obtain ⟨r, w⟩ := c
    cases hm : r.manager? p.kind p.name with
    | some x =>
      rw [tryGet_built hm]
      split <;> rfl
    | none =>
      rw [tryGet_unbuilt hm]
      exact (slot?_afterBuild hm _ kind name).trans (if_neg hne)

end Agrees

/--
**A registry keeps its account.** After any calls, in any order and with builds that succeed, fail or break off, the
next answer and the next change are those that the history of builds calls for.
-/
theorem account_run (s : σ) (calls : List (Call σ typeOf)) : Account typeOf (Course.run s calls) :=
  (Agrees.run s calls).account

end TypedStorage
