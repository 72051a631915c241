/-
What building the storage of an application leaves in the registry (`build_settles`). The options are tried one after
the other; either all of them resolve, or the first that does not ends the build, and then what was resolved before it
stays, its own place is as it would be without it, and of the options after it nothing is known.

Options of one builder are of different kinds, so none of them is in the way of another: whether an option resolves can
be told from the registry that the build began with (`faultIn?`), and the registry it ends with is described key by key.
What managers the application brings along itself are taken to be of the kind that they are brought for. Whether
databases can run and which URLs are refused is left open (`Surroundings`), so an option may fail in any way it can.
-/
import Mathlib.Data.List.ReduceOption
import TypedStorage.Registry.Builder
import TypedStorage.Proofs.Registry.Names
import TypedStorage.Proofs.Registry.Run

namespace TypedStorage

theorem Attempt.bind_apply {σ μ α β : Type} (m : Attempt σ μ α) (f : α → Attempt σ μ β) (c : Registry μ × σ) :
    (m >>= f) c = match m c with
      | (.ok x, c) => f x c
      | (.error e, c) => (.error e, c) := by
  show (match m c with | (r, c) => ExceptT.bindCont f r c) = _
  rcases m c with ⟨e | x, c⟩ <;> rfl

theorem Attempt.map_apply {σ μ α β : Type} (f : α → β) (m : Attempt σ μ α) (c : Registry μ × σ) :
    (f <$> m) c = match m c with
      | (.ok x, c) => (.ok (f x), c)
      | (.error e, c) => (.error e, c) := by
  rw [map_eq_pure_bind, bind_apply]
  rcases m c with ⟨e | x, c⟩ <;> rfl

theorem Storage.ext_managers {s s' : Storage} (h : s.managers = s'.managers) : s = s' := by
  obtain ⟨d, p, f, y⟩ := s
  obtain ⟨d', p', f', y'⟩ := s'
  simpa [managers] using h

/-! ## One option -/

namespace ManagerOption

def key (o : ManagerOption) : SlotKey := (o.kind, o.name)

/-- A manager that the application brings along is of the option's kind. -/
def Typed (o : ManagerOption) : Prop :=
  ∀ here x, o.product here = .ok (.own x) → x.manager.type = .usual o.kind

/-- Why the option does not resolve: a manager of another type has its name, or none has and it cannot be built. -/
def faultIn? (o : ManagerOption) (c : Registry Instance × Workshop) : Option StorageError :=
  match c.1.manager? o.kind o.name with
  | some x => if x.ofType (.usual o.kind) then none
    else some (.internal ("'" ++ o.name ++ "' is registered with a different manager type"))
  | none => match o.product c.2.toSurroundings with
    | .error e => some e
    | .ok _ => none

/-- The manager is the one that the option says. -/
def Makes (o : ManagerOption) (here : Surroundings) (x : Instance) : Prop :=
  match o.product here with
  | .ok (.toBuild m) => x.manager = m
  | .ok (.own y) => x = y
  | .error _ => False

/-- A manager is there that was there before or, if there was none, is the one that the option says. -/
def Registered (o : ManagerOption) (c c' : Registry Instance × Workshop) : Prop :=
  ∃ x, c'.1.manager? o.kind o.name = some x ∧ x.manager.type = .usual o.kind ∧
    (c.1.manager? o.kind o.name = some x ∨ c.1.manager? o.kind o.name = none ∧ o.Makes c.2.toSurroundings x)

/-- What the options are tried in, one after the other. -/
def tried (os : List ManagerOption) (c : Registry Instance × Workshop) : Registry Instance × Workshop :=
  os.foldl (fun c o => (Registry.tryGet o.offer c).2) c

variable {o p : ManagerOption} {c c' : Registry Instance × Workshop} {e : StorageError}

/-- What an option comes to when it is tried. -/
theorem tryGet_apply (o : ManagerOption) (r : Registry Instance) (w : Workshop) : Registry.tryGet o.offer (r, w) =
    match r.manager? o.kind o.name with
    | some x => if x.ofType (.usual o.kind) then (.ok x, (r, w)) else (.error (wrongType o.name), (r, w))
    | none => match o.product w.toSurroundings with
      | .error e => (.error (.failed e), ((r.reserve o.kind o.name).release o.kind o.name, w))
      | .ok (.toBuild m) => (.ok ⟨.built w.built, m⟩,
        ((r.reserve o.kind o.name).fill o.kind o.name ⟨.built w.built, m⟩, { w with built := w.built + 1 }))
      | .ok (.own x) => (.ok x, ((r.reserve o.kind o.name).fill o.kind o.name x, w)) := by
  cases hr : r.manager? o.kind o.name with
  | some x =>
    simp only [Registry.tryGet, offer, hr]
    rfl
  | none =>
    simp only [Registry.tryGet, offer, hr, build_apply]
    rcases o.product w.toSurroundings with e | (m | x) <;> rfl

theorem slot?_reserve_fill (r : Registry Instance) (o : ManagerOption) (x : Instance) (kind : ManagerKind) (name : String) :
    ((r.reserve o.kind o.name).fill o.kind o.name x).slot? kind name =
      if (kind, name) = o.key then some (some x) else r.slot? kind name := by
  rw [Registry.slot?_fill, Registry.slot?_reserve, key]
  split <;> rfl

theorem slot?_reserve_release {r : Registry Instance} {o : ManagerOption} (hr : r.manager? o.kind o.name = none)
    (kind : ManagerKind) (name : String) : ((r.reserve o.kind o.name).release o.kind o.name).slot? kind name =
      if (kind, name) = o.key then none else r.slot? kind name := by
  rw [Registry.slot?_release _ (by rw [Registry.manager?_reserve, hr]), Registry.slot?_reserve, key]
  split <;> rfl

/-- A failure leaves no slot, or the manager that is in the way. -/
theorem tryGet_of_faultIn? (h : o.faultIn? c = some e) : (Registry.tryGet o.offer c).1 = .error (.failed e) ∧
    (Registry.tryGet o.offer c).2.1.slot? o.kind o.name = (c.1.manager? o.kind o.name).map some := by
  obtain ⟨r, w⟩ := c
  rw [tryGet_apply]
  simp only [faultIn?] at h
  cases hr : r.manager? o.kind o.name with
  | some x =>
    simp only [hr] at h ⊢
    split at h
    · cases h
    · next hx =>
      cases h
      rw [if_neg hx]
      exact ⟨rfl, Option.join_eq_some_iff.1 hr⟩
  | none =>
    simp only [hr] at h ⊢
    split at h
    · next he =>
      cases h
      rw [he]
      exact ⟨rfl, (slot?_reserve_release hr _ _).trans (if_pos rfl)⟩
    · cases h

/-- What resolves is there afterwards. -/
theorem tryGet_of_faultIn?_eq_none (ht : o.Typed) (h : o.faultIn? c = none) : ∃ x,
    (Registry.tryGet o.offer c).1 = .ok x ∧ (Registry.tryGet o.offer c).2.1.manager? o.kind o.name = some x ∧
      o.Registered c (Registry.tryGet o.offer c).2 := by
  obtain ⟨r, w⟩ := c
  rw [tryGet_apply]
  simp only [faultIn?] at h
  cases hr : r.manager? o.kind o.name with
  | some x =>
    simp only [hr] at h ⊢
    split at h
    · next hx =>
      rw [if_pos hx]
      exact ⟨x, rfl, hr, x, hr, of_decide_eq_true hx, .inl hr⟩
    · cases h
  | none =>
    simp only [hr] at h ⊢
    have hfill : ∀ x, ((r.reserve o.kind o.name).fill o.kind o.name x).manager? o.kind o.name = some x := by
      intro x
      rw [Registry.manager?_eq, slot?_reserve_fill, key, if_pos rfl]
      rfl
    rcases hp : o.product w.toSurroundings with e | (m | x)
    · simp only [hp] at h
      cases h
    · refine ⟨_, rfl, hfill _, _, hfill _, (built_of_product hp).2, .inr ⟨hr, ?_⟩⟩
      simp only [Makes, hp]
    · refine ⟨_, rfl, hfill _, _, hfill _, ht _ _ hp, .inr ⟨hr, ?_⟩⟩
      simp only [Makes, hp]

/-- The other slots are as they were. -/
theorem slot?_tryGet_other (c : Registry Instance × Workshop) {kind : ManagerKind} {name : String}
    (h : (kind, name) ≠ o.key) : (Registry.tryGet o.offer c).2.1.slot? kind name = c.1.slot? kind name := by
  obtain ⟨r, w⟩ := c
  rw [tryGet_apply]
  cases hr : r.manager? o.kind o.name with
  | some x =>
    dsimp only
    split <;> rfl
  | none =>
    rcases o.product w.toSurroundings with e | (m | x)
    · exact (slot?_reserve_release hr _ _).trans (if_neg h)
    · exact (slot?_reserve_fill _ _ _ _ _).trans (if_neg h)
    · exact (slot?_reserve_fill _ _ _ _ _).trans (if_neg h)

theorem surroundings_tryGet (o : ManagerOption) (c : Registry Instance × Workshop) :
    (Registry.tryGet o.offer c).2.2.toSurroundings = c.2.toSurroundings := by
  obtain ⟨r, w⟩ := c
  rw [tryGet_apply]
  rcases r.manager? o.kind o.name with - | x
  · rcases o.product w.toSurroundings with e | (m | x) <;> rfl
  · dsimp only
    split <;> rfl

/-! ## Options one after the other -/

theorem tried_cons (o : ManagerOption) (os : List ManagerOption) (c : Registry Instance × Workshop) :
    tried (o :: os) c = tried os (Registry.tryGet o.offer c).2 := rfl

/-- The two states show no difference to an option. -/
def SameFor (o : ManagerOption) (c c' : Registry Instance × Workshop) : Prop :=
  c'.1.slot? o.kind o.name = c.1.slot? o.kind o.name ∧ c'.2.toSurroundings = c.2.toSurroundings

namespace SameFor

theorem manager? (h : o.SameFor c c') : c'.1.manager? o.kind o.name = c.1.manager? o.kind o.name := by
  rw [Registry.manager?_eq, Registry.manager?_eq, h.1]

theorem faultIn? (h : o.SameFor c c') : o.faultIn? c' = o.faultIn? c := by
  rw [ManagerOption.faultIn?, ManagerOption.faultIn?, h.manager?, h.2]

theorem registered_before {c'' : Registry Instance × Workshop} (h : o.SameFor c c') (hr : o.Registered c' c'') :
    o.Registered c c'' := by
  rw [Registered, h.manager?, h.2] at hr
  exact hr

theorem registered_after {c'' : Registry Instance × Workshop} (h : o.SameFor c' c'') (hr : o.Registered c c') :
    o.Registered c c'' := by
  rw [Registered, h.manager?]
  exact hr

theorem tryGet (h : p.key ≠ o.key) : p.SameFor c (Registry.tryGet o.offer c).2 :=
  ⟨slot?_tryGet_other c h, surroundings_tryGet o c⟩

end SameFor

variable {os before after : List ManagerOption}

theorem slot?_tried_other {kind : ManagerKind} {name : String} (h : ∀ o ∈ os, (kind, name) ≠ o.key) :
    (tried os c).1.slot? kind name = c.1.slot? kind name := by
  induction os generalizing c with
  | nil => rfl
  | cons o os ih =>
    rw [tried, List.foldl_cons]
    exact (ih fun o' ho' => h o' (List.mem_cons_of_mem o ho')).trans (slot?_tryGet_other c (h o List.mem_cons_self))

theorem surroundings_tried (os : List ManagerOption) (c : Registry Instance × Workshop) :
    (tried os c).2.toSurroundings = c.2.toSurroundings := by
  induction os generalizing c with
  | nil => rfl
  | cons o os ih => exact (ih _).trans (surroundings_tryGet o c)

theorem SameFor.tried (h : ∀ o ∈ os, p.key ≠ o.key) : p.SameFor c (tried os c) :=
  ⟨slot?_tried_other h, surroundings_tried os c⟩

/-- The options have names of their own. -/
def Apart (os : List ManagerOption) : Prop := os.Pairwise fun o o' => o.key ≠ o'.key

/-- **Options that resolve are all there in the end.** -/
theorem registered_tried (ht : ∀ o ∈ os, o.Typed) (hos : Apart os) (h : ∀ o ∈ os, o.faultIn? c = none) :
    ∀ o ∈ os, o.Registered c (tried os c) := by
  induction os generalizing c with
  | nil => simp
  | cons o os ih =>
    obtain ⟨hfirst, hrest⟩ := List.pairwise_cons.1 hos
    have hsame : ∀ p ∈ os, p.SameFor c (Registry.tryGet o.offer c).2 := fun p hp => .tryGet (hfirst p hp).symm
    obtain ⟨-, -, -, hregistered⟩ := tryGet_of_faultIn?_eq_none (ht o List.mem_cons_self) (h o List.mem_cons_self)
    intro p hp
    rcases List.mem_cons.1 hp with rfl | hp
    · exact (SameFor.tried hfirst).registered_after hregistered
    · refine (hsame p hp).registered_before (ih (fun p hp => ht p (List.mem_cons_of_mem o hp)) hrest ?_ p hp)
      exact fun p hp => (hsame p hp).faultIn?.trans (h p (List.mem_cons_of_mem o hp))

end ManagerOption

/-! ## The builder -/

namespace StorageBuilder

open ManagerOption

/-- The choice for each kind, in the order in which they are resolved. -/
def choices (b : StorageBuilder) : List (Option ManagerOption) :=
  [b.database.map .database, b.preferences.map .preferences, b.files.map .files, b.sync.map .sync]

def options (b : StorageBuilder) : List ManagerOption := b.choices.reduceOption

/-- The options are of different kinds. -/
theorem apart_options (b : StorageBuilder) : Apart b.options := by
  rw [Apart, options, List.reduceOption, List.pairwise_filterMap]
  simp [choices, key, kind]

/-- The manager that a registry has for a choice, if one was made. -/
def held (c : Registry Instance × Workshop) (choice : Option ManagerOption) : Option Instance :=
  choice.bind fun o => c.1.manager? o.kind o.name

theorem mapM_resolve_choices (b : StorageBuilder) : b.choices.mapM resolve = Storage.managers <$> b.build := by
  simp [choices, build, List.mapM_cons, Storage.managers]

variable {o : ManagerOption} {cs : List (Option ManagerOption)} {c : Registry Instance × Workshop}

theorem resolve_none (c : Registry Instance × Workshop) : resolve none c = (.ok none, c) := rfl

theorem resolve_ok {x : Instance} (h : (Registry.tryGet o.offer c).1 = .ok x) :
    resolve (some o) c = (.ok (some x), (Registry.tryGet o.offer c).2) := by
  unfold resolve
  rcases hc : Registry.tryGet o.offer c with ⟨r, c'⟩
  rw [hc] at h
  cases h
  simp only [hc]

theorem resolve_error {e : StorageError} (h : (Registry.tryGet o.offer c).1 = .error (.failed e)) :
    resolve (some o) c = (.error (.failed (.buildFailure o.name e.message)), (Registry.tryGet o.offer c).2) := by
  unfold resolve
  rcases hc : Registry.tryGet o.offer c with ⟨r, c'⟩
  rw [hc] at h
  cases h
  simp only [hc]

theorem mapM_resolve_cons (choice : Option ManagerOption) (cs : List (Option ManagerOption))
    (c : Registry Instance × Workshop) : ((choice :: cs).mapM resolve) c =
      match resolve choice c with
      | (.ok x, c) => match (cs.mapM resolve) c with
        | (.ok xs, c) => (.ok (x :: xs), c)
        | (.error e, c) => (.error e, c)
      | (.error e, c) => (.error e, c) := by
  rw [List.mapM_cons, Attempt.bind_apply]
  rcases resolve choice c with ⟨e | x, c⟩
  · rfl
  · dsimp only
    rw [Attempt.bind_apply]
    rcases (cs.mapM resolve) c with ⟨e | xs, c⟩ <;> rfl

/-- Choices that all resolve. -/
theorem mapM_resolve_eq_ok (ht : ∀ o ∈ cs.reduceOption, o.Typed) (hos : Apart cs.reduceOption)
    (h : ∀ o ∈ cs.reduceOption, o.faultIn? c = none) :
    (cs.mapM resolve) c = (.ok (cs.map (held (tried cs.reduceOption c))), tried cs.reduceOption c) := by
  induction cs generalizing c with
  | nil => rfl
  | cons choice cs ih =>
    rw [mapM_resolve_cons]
    cases choice with
    | none =>
      rw [List.reduceOption_cons_of_none] at ht hos h ⊢
      rw [resolve_none]
      dsimp only
      rw [ih ht hos h]
      rfl
    | some o =>
      rw [List.reduceOption_cons_of_some] at ht hos h ⊢
      obtain ⟨hfirst, hrest⟩ := List.pairwise_cons.1 hos
      obtain ⟨x, hx, hthere, -⟩ := tryGet_of_faultIn?_eq_none (ht o List.mem_cons_self) (h o List.mem_cons_self)
      rw [resolve_ok hx]
      dsimp only
      have hkept : ∀ p ∈ cs.reduceOption, p.faultIn? (Registry.tryGet o.offer c).2 = none := fun p hp =>
        (SameFor.tryGet (hfirst p hp).symm).faultIn?.trans (h p (List.mem_cons_of_mem o hp))
      rw [ih (fun p hp => ht p (List.mem_cons_of_mem o hp)) hrest hkept, tried_cons, List.map_cons]
      have hheld : held (tried cs.reduceOption (Registry.tryGet o.offer c).2) (some o) = some x :=
        (SameFor.tried hfirst).manager?.trans hthere
      rw [hheld]

/-- Choices of which one is the first that does not resolve. -/
theorem mapM_resolve_eq_error {before after : List ManagerOption} {e : StorageError}
    (hcs : cs.reduceOption = before ++ o :: after) (ht : ∀ p ∈ before, p.Typed) (hos : Apart (before ++ [o]))
    (hbefore : ∀ p ∈ before, p.faultIn? c = none) (ho : o.faultIn? c = some e) :
    (cs.mapM resolve) c = (.error (.failed (.buildFailure o.name e.message)), tried (before ++ [o]) c) := by
  induction cs generalizing before c with
  | nil => simp at hcs
  | cons choice cs ih =>
    rw [mapM_resolve_cons]
    cases choice with
    | none =>
      rw [List.reduceOption_cons_of_none] at hcs
      rw [resolve_none]
      dsimp only
      rw [ih hcs ht hos hbefore ho]
    | some p =>
      rw [List.reduceOption_cons_of_some] at hcs
      cases before with
      | nil =>
        obtain rfl : p = o := (List.cons.inj hcs).1
        rw [resolve_error (tryGet_of_faultIn? ho).1]
        rfl
      | cons q before =>
        obtain ⟨rfl, htail⟩ := List.cons.inj hcs
        obtain ⟨hfirst, hrest⟩ := List.pairwise_cons.1 hos
        obtain ⟨x, hx, -⟩ := tryGet_of_faultIn?_eq_none (ht p List.mem_cons_self) (hbefore p List.mem_cons_self)
        have hsame : ∀ q ∈ before ++ [o], q.SameFor c (Registry.tryGet p.offer c).2 := fun q hq => .tryGet (hfirst q hq).symm
        rw [resolve_ok hx]
        dsimp only
        rw [ih htail (fun q hq => ht q (List.mem_cons_of_mem p hq)) hrest
          (fun q hq => (hsame q (List.mem_append_left _ hq)).faultIn?.trans (hbefore q (List.mem_cons_of_mem p hq)))
          ((hsame o (by simp)).faultIn?.trans ho)]
        rfl

/-- Where the managers are there already, they are given out, and that is all. -/
theorem mapM_resolve_of_held (h : ∀ o ∈ cs.reduceOption, ∃ x, c.1.manager? o.kind o.name = some x ∧
    x.manager.type = .usual o.kind) : (cs.mapM resolve) c = (.ok (cs.map (held c)), c) := by
  induction cs with
  | nil => rfl
  | cons choice cs ih =>
    rw [mapM_resolve_cons]
    cases choice with
    | none =>
      rw [List.reduceOption_cons_of_none] at h
      rw [resolve_none]
      dsimp only
      rw [ih h]
      rfl
    | some o =>
      rw [List.reduceOption_cons_of_some] at h
      obtain ⟨x, hx, htype⟩ := h o List.mem_cons_self
      have hget : Registry.tryGet o.offer c = (.ok x, c) := tryGet_of_manager? hx htype
      rw [resolve_ok (congrArg Prod.fst hget), hget]
      dsimp only
      rw [ih fun p hp => h p (List.mem_cons_of_mem o hp), List.map_cons, held, Option.bind_some, hx]

/-! ## What a build leaves -/

/-- The name of each choice, with its kind. -/
def keys (b : StorageBuilder) : List (Option SlotKey) := b.choices.map (Option.map key)

/-- A build for which all options resolve. -/
structure Completes (b : StorageBuilder) (c : Registry Instance × Workshop) (s : Storage) : Prop where
  answer : b.build c = (.ok s, tried b.options c)
  /-- The managers are those that the registry now has under the names of the choices, -/
  managers : s.managers = b.choices.map (held (tried b.options c))
  /-- which are the ones that it had and, where it had none, the ones that were built. -/
  registered : ∀ o ∈ b.options, o.Registered c (tried b.options c)
  others : ∀ kind name, (∀ o ∈ b.options, (kind, name) ≠ o.key) →
    (tried b.options c).1.slot? kind name = c.1.slot? kind name
  /-- Building again gives the same managers, changes nothing, and asks nothing of the options but their names. -/
  again : ∀ b' : StorageBuilder, b'.keys = b.keys → b'.build (tried b.options c) = (.ok s, tried b.options c)

/-- A build that one option ends, which comes after some that resolve and before others. -/
structure Stops (b : StorageBuilder) (c : Registry Instance × Workshop) (before : List ManagerOption) (o : ManagerOption)
    (after : List ManagerOption) (e : StorageError) : Prop where
  /-- The error names the option and says what the registry said, and no later option was tried. -/
  answer : b.build c = (.error (.failed (.buildFailure o.name e.message)), tried (before ++ [o]) c)
  cause : (Registry.tryGet o.offer (tried before c)).1 = .error (.failed e)
  registered : ∀ p ∈ before, p.Registered c (tried (before ++ [o]) c)
  /-- There is no slot for the option, unless a manager of another type has it. -/
  failed : (tried (before ++ [o]) c).1.slot? o.kind o.name = (c.1.manager? o.kind o.name).map some
  later : ∀ p ∈ after, (tried (before ++ [o]) c).1.slot? p.kind p.name = c.1.slot? p.kind p.name
  others : ∀ kind name, (∀ p ∈ before ++ [o], (kind, name) ≠ p.key) →
    (tried (before ++ [o]) c).1.slot? kind name = c.1.slot? kind name

variable {b b' : StorageBuilder}

theorem exists_build_eq_ok {xs : List (Option Instance)} {c' : Registry Instance × Workshop}
    (h : (b.choices.mapM resolve) c = (.ok xs, c')) : ∃ s, b.build c = (.ok s, c') ∧ s.managers = xs := by
  rw [mapM_resolve_choices, Attempt.map_apply] at h
  rcases hb : b.build c with ⟨e | s, c₁⟩
  · rw [hb] at h
    cases h
  · rw [hb] at h
    cases h
    exact ⟨s, rfl, rfl⟩

theorem build_eq_error {e : Setback} {c' : Registry Instance × Workshop}
    (h : (b.choices.mapM resolve) c = (.error e, c')) : b.build c = (.error e, c') := by
  rw [mapM_resolve_choices, Attempt.map_apply] at h
  rcases hb : b.build c with ⟨e' | s, c₁⟩
  · rw [hb] at h
    cases h
    rfl
  · rw [hb] at h
    cases h

/-- The registry is asked by name only. -/
theorem map_held_eq (h : b'.keys = b.keys) (c : Registry Instance × Workshop) :
    b'.choices.map (held c) = b.choices.map (held c) := by
  have hkeys : ∀ b : StorageBuilder, b.choices.map (held c) = b.keys.map (·.bind fun k => c.1.manager? k.1 k.2) := by
    intro b
    rw [keys, List.map_map]
    refine List.map_congr_left fun choice _ => ?_
    cases choice <;> rfl
  rw [hkeys, hkeys, h]

theorem exists_key_of_keys_eq (h : b'.keys = b.keys) : ∀ p ∈ b'.options, ∃ o ∈ b.options, o.key = p.key := by
  have hkeys : ∀ b : StorageBuilder, b.options.map key = b.keys.reduceOption := fun _ => List.reduceOption_map.symm
  intro p hp
  have hmem : p.key ∈ b'.options.map key := List.mem_map_of_mem hp
  rw [hkeys, h, ← hkeys] at hmem
  exact List.mem_map.1 hmem

theorem completes_of_faultIn?_eq_none (hb : ∀ o ∈ b.options, o.Typed) (h : ∀ o ∈ b.options, o.faultIn? c = none) :
    ∃ s, b.Completes c s := by
  obtain ⟨s, hs, hmanagers⟩ := exists_build_eq_ok (mapM_resolve_eq_ok hb b.apart_options h)
  have hregistered := registered_tried hb b.apart_options h
  refine ⟨s, hs, hmanagers, hregistered, fun kind name hk => slot?_tried_other hk, fun b' hb' => ?_⟩
  have hheld : ∀ p ∈ b'.options, ∃ x, (tried b.options c).1.manager? p.kind p.name = some x ∧
      x.manager.type = .usual p.kind := by
    intro p hp
    obtain ⟨o, ho, hkey⟩ := exists_key_of_keys_eq hb' p hp
    obtain ⟨x, hx, htype, -⟩ := hregistered o ho
    obtain ⟨hkind, hname⟩ := Prod.mk.inj hkey
    exact ⟨x, hkind ▸ hname ▸ hx, hkind ▸ htype⟩
  obtain ⟨s', hs', hmanagers'⟩ := exists_build_eq_ok (mapM_resolve_of_held hheld)
  rw [hs', Storage.ext_managers (hmanagers'.trans ((map_held_eq hb' _).trans hmanagers.symm))]

theorem stops_of_faultIn? {before after : List ManagerOption} {e : StorageError} (hb : ∀ o ∈ b.options, o.Typed)
    (hos : b.options = before ++ o :: after) (hbefore : ∀ p ∈ before, p.faultIn? c = none) (ho : o.faultIn? c = some e) :
    b.Stops c before o after e := by
  have hapart : Apart (before ++ o :: after) := hos ▸ b.apart_options
  obtain ⟨hpre, hpost, hacross⟩ := List.pairwise_append.1 hapart
  have htyped : ∀ p ∈ before, p.Typed := fun p hp => hb p (hos ▸ List.mem_append_left _ hp)
  have htried : tried (before ++ [o]) c = (Registry.tryGet o.offer (tried before c)).2 := List.foldl_concat ..
  have hsame : o.SameFor c (tried before c) := .tried fun p hp => (hacross p hp o List.mem_cons_self).symm
  have hend := tryGet_of_faultIn? (hsame.faultIn?.trans ho)
  have hothers : ∀ kind name, (∀ p ∈ before ++ [o], (kind, name) ≠ p.key) →
      (tried (before ++ [o]) c).1.slot? kind name = c.1.slot? kind name := fun kind name h => slot?_tried_other h
  refine ⟨build_eq_error (mapM_resolve_eq_error hos htyped ?_ hbefore ho), hend.1, fun p hp => ?_, ?_, fun p hp => ?_, hothers⟩
  · refine List.pairwise_append.2 ⟨hpre, List.pairwise_singleton _ o, fun p hp q hq => ?_⟩
    rw [List.mem_singleton.1 hq]
    exact hacross p hp o List.mem_cons_self
  · have hleft : p.SameFor (tried before c) (tried (before ++ [o]) c) :=
      htried ▸ .tryGet (hacross p hp o List.mem_cons_self)
    exact hleft.registered_after (registered_tried htyped hpre hbefore p hp)
  · rw [htried, hend.2, hsame.manager?]
  · refine hothers p.kind p.name fun q hq => ?_
    rcases List.mem_append.1 hq with hq | hq
    · exact (hacross q hq p (List.mem_cons_of_mem o hp)).symm
    · rw [List.mem_singleton.1 hq]
      exact ((List.pairwise_cons.1 hpost).1 p hp).symm

/--
**A build completes or stops cleanly.** Either all options resolve, and the build gives just their managers and gives
them again when it is repeated; or one is the first that does not, and then the build names it, the options before it
are registered, and nothing is left of it and of those after it.
-/
theorem build_settles {b : StorageBuilder} (hb : ∀ o ∈ b.options, o.Typed) (c : Registry Instance × Workshop) :
    ((∀ o ∈ b.options, o.faultIn? c = none) ∧ ∃ s, b.Completes c s) ∨
      ∃ before o after e, b.options = before ++ o :: after ∧ (∀ p ∈ before, p.faultIn? c = none) ∧ o.faultIn? c = some e ∧
        b.Stops c before o after e := by
  cases hfirst : b.options.findSome? fun o => o.faultIn? c with
  | none =>
    rw [List.findSome?_eq_none_iff] at hfirst
    exact .inl ⟨hfirst, completes_of_faultIn?_eq_none hb hfirst⟩
  | some e =>
    obtain ⟨before, o, after, hos, ho, hbefore⟩ := List.findSome?_eq_some_iff.1 hfirst
    exact .inr ⟨before, o, after, e, hos, hbefore, ho, stops_of_faultIn? hb hos hbefore ho⟩

/-- A database in memory, preferences for a service without a name, and no synchronisation. -/
def nameless : StorageBuilder := ⟨some (.embedded ":memory:" none), some (.secure "" none .whenUnlocked), none, some .none⟩

/-- The database is there, the preferences are at fault, and of the synchronisation nothing is known. -/
theorem build_settles_nameless : (∀ o ∈ nameless.options, o.Typed) ∧
    ∃ before o after e, nameless.options = before ++ o :: after ∧ (∀ p ∈ before, p.faultIn? (.empty, .start) = none) ∧
      o.faultIn? (.empty, .start) = some e ∧ nameless.Stops (.empty, .start) before o after e := by
  have htyped : ∀ o ∈ nameless.options, o.Typed := by
    intro o ho here x hx
    simp only [nameless, options, choices, Option.map_some, Option.map_none, List.reduceOption_cons_of_some,
      List.reduceOption_cons_of_none, List.reduceOption_nil, List.mem_cons, List.not_mem_nil, or_false] at ho
    rcases ho with rfl | rfl | rfl
    · simp only [product, DatabaseOption.product] at hx
      split at hx <;> cases hx
    · cases hx
    · cases hx
  refine ⟨htyped, (build_settles htyped _).resolve_left ?_⟩
  rintro ⟨hall, -⟩
  have hnone := hall (.preferences (.secure "" none .whenUnlocked)) (by simp [nameless, options, choices])
  exact absurd hnone (by decide)

end StorageBuilder

end TypedStorage
