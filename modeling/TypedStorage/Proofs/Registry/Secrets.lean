/-
Secrets stay where they are (`secrets_unseen`). The key of an encrypted database and the accessibility of a keychain are
part of an option and of the manager that is built of it, and of nothing else: options that differ only there have one
name, are shown alike, and whatever is built, found or refused for the one is so for the other, in the same words.

Two runs are followed side by side. Their registries may hold managers with different secrets, so they are compared with
the secrets blotted out (`redacted`), and that they stay alike is what one option does to them (`same_tryGet`), and so
what a builder does, which tries its options one by one (`same_build`).
-/
import Mathlib.Data.List.Sort
import TypedStorage.Proofs.Registry.Building

namespace TypedStorage

/-- Answers that are the same under a function are the same error, or two values that are. -/
theorem Except.cases_of_map_eq {ε α β : Type} {f : α → β} {a a' : Except ε α} (h : a.map f = a'.map f) :
    (∃ e, a = .error e ∧ a' = .error e) ∨ ∃ x x', a = .ok x ∧ a' = .ok x' ∧ f x = f x' := by
  rcases a with e | x <;> rcases a' with e' | x'
  case error.error => exact .inl ⟨e, rfl, by rw [Except.error.inj h]⟩
  case ok.ok => exact .inr ⟨x, x', rfl, rfl, Except.ok.inj h⟩
  all_goals cases h

/-! ## Blotting out -/

/-- The connection without what it sets when it opens. -/
def Engine.Connection.redacted (c : Engine.Connection) : Engine.Connection := { c with settings := [] }

def SecurePreferences.redacted (p : SecurePreferences) : SecurePreferences := { p with accessibility := default }

def Manager.redacted : Manager → Manager
  | .connection c => .connection c.redacted
  | .secure p => .secure p.redacted
  | m => m

def Instance.redacted (x : Instance) : Instance := { x with manager := x.manager.redacted }

def Storage.redacted (s : Storage) : Storage :=
  ⟨s.database.map Instance.redacted, s.preferences.map Instance.redacted, s.files.map Instance.redacted,
    s.sync.map Instance.redacted⟩

def Product.redacted : Product → Product
  | .toBuild m => .toBuild m.redacted
  | .own x => .own x.redacted

/-- What is left is of the same type. -/
theorem Manager.type_redacted (m : Manager) : m.redacted.type = m.type := by cases m <;> rfl

theorem Instance.type_eq_of_redacted {x x' : Instance} (h : x.redacted = x'.redacted) :
    x.manager.type = x'.manager.type := by
  rw [← x.manager.type_redacted, ← x'.manager.type_redacted]
  exact congrArg (fun x : Instance => x.manager.type) h

/-! ## Registries and answers -/

/-- The registries have the same slots, with the same managers but for their secrets. -/
def Registry.Alike (r r' : Registry Instance) : Prop := ∀ kind name,
  (r.slot? kind name).map (Option.map Instance.redacted) = (r'.slot? kind name).map (Option.map Instance.redacted)

namespace Registry.Alike

theorem refl (r : Registry Instance) : r.Alike r := fun _ _ => rfl

variable {r r' : Registry Instance} (h : r.Alike r')
include h

theorem manager? (kind : ManagerKind) (name : String) :
    (r.manager? kind name).map Instance.redacted = (r'.manager? kind name).map Instance.redacted := by
  have hjoin : ∀ s : Option (Option Instance),
      s.join.map Instance.redacted = (s.map (Option.map Instance.redacted)).join := by
    rintro (- | x) <;> rfl
  rw [manager?_eq, manager?_eq, hjoin, hjoin, h]

theorem names (kind : ManagerKind) : r.names kind = r'.names kind := by
  refine (r.pairwise_names).eq_of_mem_iff r'.pairwise_names fun name => ?_
  rw [mem_names, mem_names, ← Option.isSome_map (f := Instance.redacted), h.manager? kind name, Option.isSome_map]

theorem debugText : r.debugText = r'.debugText := by
  have hkeys : r.keys.toFinset = r'.keys.toFinset := by
    ext ⟨kind, name⟩
    rw [List.mem_toFinset, List.mem_toFinset, mem_keys, mem_keys,
      ← Option.isSome_map (f := Option.map Instance.redacted), h kind name, Option.isSome_map]
  have hcount : r.slotCount = r'.slotCount := by rw [slotCount_eq, slotCount_eq, hkeys]
  unfold Registry.debugText
  rw [hcount]

theorem manager?_eq_none {kind : ManagerKind} {name : String} (hr : r.manager? kind name = none) :
    r'.manager? kind name = none := by
  have hnone := h.manager? kind name
  rw [hr] at hnone
  exact Option.map_eq_none_iff.1 hnone.symm

theorem fill {x x' : Instance} (hx : x.redacted = x'.redacted) (kind : ManagerKind) (name : String) :
    Alike ((r.reserve kind name).fill kind name x) ((r'.reserve kind name).fill kind name x') := by
  intro kind' name'
  rw [slot?_fill, slot?_fill]
  split
  · simp only [Option.map_some, hx]
  · next hk => rw [slot?_reserve, slot?_reserve, if_neg hk, if_neg hk, h]

theorem release {kind : ManagerKind} {name : String} (hr : r.manager? kind name = none) :
    Alike ((r.reserve kind name).release kind name) ((r'.reserve kind name).release kind name) := by
  intro kind' name'
  rw [slot?_release _ (by rw [manager?_reserve, hr]), slot?_release _ (by rw [manager?_reserve, h.manager?_eq_none hr])]
  split
  · rfl
  · next hk => rw [slot?_reserve, slot?_reserve, if_neg hk, if_neg hk, h]

end Registry.Alike

namespace Attempt

variable {α β γ δ : Type}

/-- What two attempts have come to is the same to everyone who does not know the secrets. -/
structure ShowSame (shown : α → β) (x y : Except Setback α × (Registry Instance × Workshop)) : Prop where
  /-- Both fail in the same way, or give what is shown to be the same. -/
  answer : x.1.map shown = y.1.map shown
  registry : x.2.1.Alike y.2.1
  names : ∀ kind, x.2.1.names kind = y.2.1.names kind
  debugText : x.2.1.debugText = y.2.1.debugText
  workshop : x.2.2 = y.2.2

theorem ShowSame.of_alike {shown : α → β} {x y : Except Setback α × (Registry Instance × Workshop)}
    (ha : x.1.map shown = y.1.map shown) (hr : x.2.1.Alike y.2.1) (hw : x.2.2 = y.2.2) : ShowSame shown x y :=
  ⟨ha, hr, hr.names, hr.debugText, hw⟩

theorem bind_eq_ok {a : InWorkshop α} {next : α → InWorkshop γ} {c c' : Registry Instance × Workshop} {y : γ}
    (h : (a >>= next) c = (.ok y, c')) : ∃ x c₁, a c = (.ok x, c₁) ∧ next x c₁ = (.ok y, c') := by
  rw [bind_apply] at h
  rcases ha : a c with ⟨e | x, c₁⟩ <;> rw [ha] at h
  · cases h
  · exact ⟨x, c₁, rfl, h⟩

/-- From registries that are alike, the attempts show the same. -/
def Same (shown : α → β) (a a' : InWorkshop α) : Prop :=
  ∀ r r' w, r.Alike r' → ShowSame shown (a (r, w)) (a' (r', w))

theorem Same.pure {shown : α → β} {x x' : α} (h : shown x = shown x') : Same shown (pure x) (pure x') :=
  fun _ _ _ hr => .of_alike (congrArg Except.ok h) hr rfl

theorem Same.bind {shown : α → β} {shown' : γ → δ} {a a' : InWorkshop α} {next next' : α → InWorkshop γ}
    (ha : Same shown a a') (hnext : ∀ x x', shown x = shown x' → Same shown' (next x) (next' x')) :
    Same shown' (a >>= next) (a' >>= next') := by
  intro r r' w hr
  have hboth := ha r r' w hr
  rw [bind_apply, bind_apply]
  generalize a (r, w) = x, a' (r', w) = y at hboth ⊢
  obtain ⟨answer, r₁, w₁⟩ := x
  obtain ⟨answer', r₁', w₁'⟩ := y
  obtain rfl : w₁ = w₁' := hboth.workshop
  rcases Except.cases_of_map_eq hboth.answer with ⟨e, rfl, rfl⟩ | ⟨x, x', rfl, rfl, hx⟩
  · exact .of_alike rfl hboth.registry rfl
  · exact hnext x x' hx r₁ r₁' w₁ hboth.registry

end Attempt

/-! ## Options -/

namespace ManagerOption

/-- Options that are the same, or differ in the key of a database or in the accessibility of a keychain. -/
inductive SameButSecret : ManagerOption → ManagerOption → Prop
  | refl (o : ManagerOption) : SameButSecret o o
  | key (path : String) {k k' : String} (h : k ≠ "") (h' : k' ≠ "") :
    SameButSecret (database (.embedded path (some ⟨k⟩))) (database (.embedded path (some ⟨k'⟩)))
  | accessibility (serviceId : String) (group : Option String) (a a' : Accessibility) :
    SameButSecret (preferences (.secure serviceId group a)) (preferences (.secure serviceId group a'))

/-- The options have one key in a registry, and managers that differ in secrets at most. -/
structure Alike (o o' : ManagerOption) : Prop where
  kind : o.kind = o'.kind
  name : o.name = o'.name
  product : ∀ here, (o.product here).map Product.redacted = (o'.product here).map Product.redacted

variable {o o' : ManagerOption}

/-- Of a key that is not empty, nothing is seen when a database is opened. -/
theorem open?_redacted (path : String) {k k' : String} (h : k ≠ "") (h' : k' ≠ "") (isRunning : Bool) :
    (Engine.Connection.open? path (some k) isRunning).map Engine.Connection.redacted =
      (Engine.Connection.open? path (some k') isRunning).map Engine.Connection.redacted := by
  have hk : some k ≠ some "" := fun he => h (Option.some.inj he)
  have hk' : some k' ≠ some "" := fun he => h' (Option.some.inj he)
  rw [Engine.Connection.open?, Engine.Connection.open?, if_neg hk, if_neg hk']
  split
  · rfl
  · split <;> rfl

theorem SameButSecret.alike (h : SameButSecret o o') : o.Alike o' := by
  cases h with
  | refl => exact ⟨rfl, rfl, fun _ => rfl⟩
  | @key path k k' h h' =>
    refine ⟨rfl, rfl, fun here => ?_⟩
    simp only [product, DatabaseOption.product, Option.map_some]
    rcases Except.cases_of_map_eq (open?_redacted path h h' here.isRunning) with ⟨e, he, he'⟩ | ⟨c, c', hc, hc', hsame⟩
    · rw [he, he']
    · rw [hc, hc']
      simp only [Except.map, Product.redacted, Manager.redacted, hsame]
  | accessibility serviceId group a a' =>
    refine ⟨rfl, ?_, fun here => ?_⟩
    · simp only [name, PreferencesOption.name_secure]
    · simp only [product, PreferencesOption.product, SecurePreferences.of?]
      split <;> rfl

/-- What the two lead to: the same error, managers that are alike to be built, or two of the application's own. -/
theorem Alike.cases (h : o.Alike o') (here : Surroundings) :
    (∃ e, o.product here = .error e ∧ o'.product here = .error e) ∨
      (∃ m m', o.product here = .ok (.toBuild m) ∧ o'.product here = .ok (.toBuild m') ∧
        m.redacted = m'.redacted) ∨
      ∃ x x', o.product here = .ok (.own x) ∧ o'.product here = .ok (.own x') ∧ x.redacted = x'.redacted := by
  rcases Except.cases_of_map_eq (h.product here) with herror | ⟨m | x, m' | x', hm, hm', hsame⟩
  · exact .inl herror
  · exact .inr (.inl ⟨m, m', hm, hm', Product.toBuild.inj hsame⟩)
  · cases hsame
  · cases hsame
  · exact .inr (.inr ⟨x, x', hm, hm', Product.own.inj hsame⟩)

/-- An option shows its kind and its name. -/
theorem Alike.debugText (h : o.Alike o') : o.debugText = o'.debugText := by
  obtain ⟨hkind, hname, -⟩ := h
  unfold ManagerOption.debugText
  rw [hname]
  cases o <;> cases o' <;> first | rfl | cases hkind

/-- Building either shows the same, -/
theorem Alike.same_build (h : o.Alike o') : Attempt.Same Instance.redacted o.build o'.build := by
  intro r r' w hr
  rw [build_apply, build_apply]
  rcases h.cases w.toSurroundings with ⟨e, he, he'⟩ | ⟨m, m', hm, hm', hsame⟩ | ⟨x, x', hx, hx', hsame⟩
  · rw [he, he']
    exact .of_alike rfl hr rfl
  · rw [hm, hm']
    exact .of_alike (by simp only [Except.map, Instance.redacted, hsame]) hr rfl
  · rw [hx, hx']
    exact .of_alike (congrArg Except.ok hsame) hr rfl

/-- and so does getting either from a registry. -/
theorem Alike.same_tryGet (h : o.Alike o') :
    Attempt.Same Instance.redacted (Registry.tryGet o.offer) (Registry.tryGet o'.offer) := by
  intro r r' w hr
  rw [tryGet_apply, tryGet_apply, ← h.kind, ← h.name]
  cases hfound : r.manager? o.kind o.name with
  | none =>
    rw [hr.manager?_eq_none hfound]
    dsimp only
    rcases h.cases w.toSurroundings with ⟨e, he, he'⟩ | ⟨m, m', hm, hm', hsame⟩ | ⟨x, x', hx, hx', hsame⟩
    · rw [he, he']
      exact .of_alike rfl (hr.release hfound) rfl
    · have hbuilt : (Instance.mk (.built w.built) m).redacted = (Instance.mk (.built w.built) m').redacted := by
        simp only [Instance.redacted, hsame]
      rw [hm, hm']
      exact .of_alike (congrArg Except.ok hbuilt) (hr.fill hbuilt _ _) rfl
    · rw [hx, hx']
      exact .of_alike (congrArg Except.ok hsame) (hr.fill hsame _ _) rfl
  | some x =>
    have hfound' := hr.manager? o.kind o.name
    rw [hfound, Option.map_some] at hfound'
    obtain ⟨x', hx', hsame⟩ := Option.map_eq_some_iff.1 hfound'.symm
    have htype : x.ofType (.usual o.kind) = x'.ofType (.usual o.kind) := by
      rw [Instance.ofType, Instance.ofType, Instance.type_eq_of_redacted hsame]
    rw [hx']
    dsimp only
    rw [htype]
    split
    · exact .of_alike (congrArg Except.ok hsame.symm) hr rfl
    · exact .of_alike rfl hr rfl

end ManagerOption

/-! ## Builders -/

namespace StorageBuilder

open ManagerOption

/-- The builders choose options that are the same but for secrets. -/
def SameButSecrets (b b' : StorageBuilder) : Prop := List.Forall₂ (Option.Rel SameButSecret) b.choices b'.choices

theorem same_resolve {choice choice' : Option ManagerOption} (h : Option.Rel SameButSecret choice choice') :
    Attempt.Same (Option.map Instance.redacted) (resolve choice) (resolve choice') := by
  cases h with
  | none => exact .pure rfl
  | @some o o' h =>
    intro r r' w hr
    have hboth := h.alike.same_tryGet r r' w hr
    unfold resolve
    dsimp only
    generalize Registry.tryGet o.offer (r, w) = x, Registry.tryGet o'.offer (r', w) = y at hboth ⊢
    obtain ⟨answer, r₁, w₁⟩ := x
    obtain ⟨answer', r₁', w₁'⟩ := y
    rcases Except.cases_of_map_eq hboth.answer with ⟨e | -, rfl, rfl⟩ | ⟨x, x', rfl, rfl, hx⟩
    · -- the failure names the option
      rw [h.alike.name]
      exact .of_alike rfl hboth.registry hboth.workshop
    · exact .of_alike rfl hboth.registry hboth.workshop
    · exact .of_alike (congrArg (Except.ok ∘ some) hx) hboth.registry hboth.workshop

theorem same_build {b b' : StorageBuilder} (h : b.SameButSecrets b') :
    Attempt.Same Storage.redacted b.build b'.build := by
  simp only [SameButSecrets, choices, List.forall₂_cons] at h
  obtain ⟨hdatabase, hpreferences, hfiles, hsync, -⟩ := h
  refine (same_resolve hdatabase).bind fun d d' hd => (same_resolve hpreferences).bind fun p p' hp => ?_
  refine (same_resolve hfiles).bind fun f f' hf => (same_resolve hsync).bind fun y y' hy => ?_
  exact .pure (by simp only [Storage.redacted, hd, hp, hf, hy])

/-- A choice as a builder shows it. -/
def shownChoice : Option ManagerOption → String
  | some o => "Some(" ++ o.debugText ++ ")"
  | none => "None"

theorem shownChoice_eq {choice choice' : Option ManagerOption} (h : Option.Rel SameButSecret choice choice') :
    shownChoice choice = shownChoice choice' := by
  cases h with
  | none => rfl
  | some h => rw [shownChoice, shownChoice, h.alike.debugText]

theorem debugText_eq {b b' : StorageBuilder} (h : b.SameButSecrets b') : b.debugText = b'.debugText := by
  have hshown : ∀ b : StorageBuilder, b.debugText =
      "StorageBuilder \x7b database: " ++ shownChoice (b.database.map .database) ++ ", preferences: "
        ++ shownChoice (b.preferences.map .preferences) ++ ", files: " ++ shownChoice (b.files.map .files) ++ ", sync: "
        ++ shownChoice (b.sync.map .sync) ++ " \x7d" := fun _ => rfl
  simp only [SameButSecrets, choices, List.forall₂_cons] at h
  obtain ⟨hdatabase, hpreferences, hfiles, hsync, -⟩ := h
  rw [hshown, hshown, shownChoice_eq hdatabase, shownChoice_eq hpreferences, shownChoice_eq hfiles,
    shownChoice_eq hsync]

/-- A build that succeeds gives the database that its option was resolved to. -/
theorem resolve_database_of_build {b : StorageBuilder} {c c' : Registry Instance × Workshop} {s : Storage}
    (h : b.build c = (.ok s, c')) : ∃ c₁, resolve (b.database.map .database) c = (.ok s.database, c₁) := by
  obtain ⟨d, c₁, hd, h⟩ := Attempt.bind_eq_ok h
  obtain ⟨p, c₂, -, h⟩ := Attempt.bind_eq_ok h
  obtain ⟨f, c₃, -, h⟩ := Attempt.bind_eq_ok h
  obtain ⟨y, c₄, -, h⟩ := Attempt.bind_eq_ok h
  cases h
  exact ⟨c₁, hd⟩

end StorageBuilder

/-! ## What secrets leave no trace in -/

open Attempt (ShowSame)

/--
**Secrets are not to be seen.** Options that are the same but for secrets have one name and are shown alike, and so are
builders that choose such options. From whatever registry, building and getting them come to the same: the same failure
in the same words, or managers of the same identity that are the same but for secrets, and a registry with the same
names. And a database that is registered is given out under its path, whatever key is brought along.
-/
theorem secrets_unseen :
    (∀ o o' : ManagerOption, o.SameButSecret o' → o.name = o'.name ∧ o.debugText = o'.debugText ∧ ∀ c,
      ShowSame Instance.redacted (o.build c) (o'.build c) ∧
      ShowSame Instance.redacted (Registry.tryGet o.offer c) (Registry.tryGet o'.offer c)) ∧
    (∀ b b' : StorageBuilder, b.SameButSecrets b' → b.debugText = b'.debugText ∧ ∀ c,
      ShowSame Storage.redacted (b.build c) (b'.build c)) ∧
    ∀ path encryption (r : Registry Instance) w x, r.manager? .database ("database:sqlite:" ++ path) = some x →
      x.manager.type = .usual .database →
        Registry.tryGet (ManagerOption.database (.embedded path encryption)).offer (r, w) = (.ok x, (r, w)) ∧
        ∀ (b : StorageBuilder) s c', b.database = some (.embedded path encryption) → b.build (r, w) = (.ok s, c') →
          s.database = some x := by
  refine ⟨fun o o' h => ?_, fun b b' h => ?_, fun path encryption r w x hx htype => ?_⟩
  · exact ⟨h.alike.name, h.alike.debugText, fun c =>
      ⟨h.alike.same_build c.1 c.1 c.2 (.refl c.1), h.alike.same_tryGet c.1 c.1 c.2 (.refl c.1)⟩⟩
  · exact ⟨StorageBuilder.debugText_eq h, fun c => StorageBuilder.same_build h c.1 c.1 c.2 (.refl c.1)⟩
  · have hget : Registry.tryGet (ManagerOption.database (.embedded path encryption)).offer (r, w) = (.ok x, (r, w)) :=
      ManagerOption.tryGet_of_manager? hx htype
    refine ⟨hget, fun b s c' hb h => ?_⟩
    obtain ⟨c₁, hresolve⟩ := StorageBuilder.resolve_database_of_build h
    rw [hb, Option.map_some, StorageBuilder.resolve_ok (congrArg Prod.fst hget)] at hresolve
    exact (Except.ok.inj (congrArg Prod.fst hresolve)).symm

/-- Two keys for one file. -/
theorem secrets_unseen_keys :
    let o := ManagerOption.database (.embedded "./app.db" (some ⟨"hunter2"⟩))
    let o' := ManagerOption.database (.embedded "./app.db" (some ⟨"it's a secret"⟩))
    o.SameButSecret o' ∧ o.name = o'.name ∧ o.debugText = o'.debugText ∧ ∀ c,
      ShowSame Instance.redacted (o.build c) (o'.build c) ∧
      ShowSame Instance.redacted (Registry.tryGet o.offer c) (Registry.tryGet o'.offer c) := by
  intro o o'
  have h : o.SameButSecret o' := .key "./app.db" (by decide) (by decide)
  exact ⟨h, secrets_unseen.1 o o' h⟩

end TypedStorage
