/-
Settings that are not valid cannot be built (`build_fails_of_invalid`). Validity is checked on the settings, section by
section, and building on the options that are made of them, option by option; the two checks are written apart, and
nothing but this ties them to each other. So whatever a section is complained of for, the option made of it is refused
too (`exists_refused`), and as both go through the kinds in one order, the build ends at that option or before. Which
URLs are refused is the matter of a client that is not part of this; all that is asked of it is not to take the empty one.
-/
import TypedStorage.Proofs.Registry.Building

namespace TypedStorage

/-! ## Kinds in their order -/

namespace ManagerKind

/-- The place of a kind in the order in which choices are resolved. -/
def order (k : ManagerKind) : Nat := all.idxOf k

/-- The kinds before one are those that come first in the order. -/
theorem order_lt_iff_mem {j k : ManagerKind} {before after : List ManagerKind} (h : all = before ++ k :: after) :
    j.order < k.order ↔ j ∈ before := by
  have hnodup : (before ++ k :: after).Nodup := h ▸ by decide
  have hk : k ∉ before := fun hk => (List.nodup_append.1 hnodup).2.2 k hk k List.mem_cons_self rfl
  rw [order, order, h, List.idxOf_append_of_notMem hk, List.idxOf_cons_self, Nat.add_zero]
  by_cases hj : j ∈ before
  · rw [List.idxOf_append_of_mem hj]
    exact iff_of_true (List.idxOf_lt_length_of_mem hj) hj
  · rw [List.idxOf_append_of_notMem hj]
    exact iff_of_false (Nat.not_lt.2 (Nat.le_add_right ..)) hj

theorem colon_not_mem_name (k : ManagerKind) : ':' ∉ k.name.toList := by cases k <;> decide

theorem name_inj {j k : ManagerKind} : j.name = k.name ↔ j = k := by cases j <;> cases k <;> decide

end ManagerKind

namespace ManagerOption

/-- The name of an option begins with its kind. -/
theorem begins_with_kind (o : ManagerOption) : (o.kind.name ++ ":").toList <+: o.name.toList := by
  have hfront : ∀ {k : ManagerKind} {front : String} (rest : String), (k.name ++ ":").toList <+: front.toList →
      (k.name ++ ":").toList <+: (front ++ rest).toList := by
    intro k front rest h
    exact h.trans (String.toList_append ▸ List.prefix_append _ _)
  have hown : ∀ (k : ManagerKind) (name : String), (k.name ++ ":").toList <+: (ownName k name).toList := by
    intro k name
    exact hfront name (by cases k <;> decide)
  rcases o with (⟨path, _⟩ | ⟨_, name⟩) | (⟨ns, _⟩ | ⟨s, group, _⟩ | ⟨_, name⟩) | (⟨base, f, _⟩ | ⟨_, name⟩) |
    (- | ⟨_, name⟩)
  case database.embedded => exact hfront (k := .database) path (by decide)
  case preferences.namespaced => exact hfront (k := .preferences) ns (by decide)
  case preferences.secure =>
    simp only [name, PreferencesOption.name_secure]
    exact hfront (k := .preferences) _ (by decide)
  case files.directory => exact hfront f (hfront ":" (hfront (k := .files) base.name (by decide)))
  case sync.none => exact (by decide : (ManagerKind.sync.name ++ ":").toList <+: "sync:none".toList)
  all_goals exact hown _ name

/-- The name of an option tells its kind. -/
theorem kind_eq_of_name_eq {o p : ManagerOption} (h : o.name = p.name) : o.kind = p.kind := by
  have hkind : ∀ o : ManagerOption, o.name.toList.takeWhile (· ≠ ':') = o.kind.name.toList := by
    intro o
    obtain ⟨rest, hrest⟩ := o.begins_with_kind
    have hname : o.name.toList = o.kind.name.toList ++ ':' :: rest := by rw [← hrest]; simp
    rw [hname, List.takeWhile_append_of_pos]
    · simp
    · intro c hc
      exact decide_eq_true fun he => o.kind.colon_not_mem_name (he ▸ hc)
  rw [← ManagerKind.name_inj, ← String.toList_inj, ← hkind, ← hkind, h]

end ManagerOption

/-! ## What is wrong with settings -/

namespace Settings

/-- What is wrong with one section. -/
def complaintIn? (s : Settings) : ManagerKind → Option String
  | .database => s.database.bind DatabaseSettings.complaint?
  | .preferences => s.preferences.bind PreferencesSettings.complaint?
  | .files => s.files.bind FilesSettings.complaint?
  | .sync => none

/-- A section is the first that something is wrong with. -/
structure ComplainsOf (s : Settings) (kind : ManagerKind) (text : String) : Prop where
  complaint : s.complaintIn? kind = some text
  valid_before : ∀ k : ManagerKind, k.order < kind.order → s.complaintIn? k = none

/-- The texts for each section. -/
def complaints : ManagerKind → List String
  | .database => ["Database path cannot be empty", "Database encryption_key cannot be empty when set"]
  | .preferences => ["Preferences namespace cannot be empty", "Redis URL cannot be empty",
      "Secure preferences service_id cannot be empty"]
  | .files => ["Files folder_name cannot be empty"]
  | .sync => []

variable {s s' : Settings} {j k : ManagerKind} {text : String}

theorem mem_complaints (h : s.complaintIn? k = some text) : text ∈ complaints k := by
  cases k with
  | database =>
    obtain ⟨d, -, hd⟩ := Option.bind_eq_some_iff.1 h
    simp only [DatabaseSettings.complaint?] at hd
    split at hd
    · cases hd; simp [complaints]
    · split at hd <;> cases hd
      simp [complaints]
  | preferences =>
    obtain ⟨p, -, hp⟩ := Option.bind_eq_some_iff.1 h
    cases p with
    | namespaced ns url =>
      simp only [PreferencesSettings.complaint?] at hp
      split at hp
      · cases hp; simp [complaints]
      · split at hp <;> cases hp
        simp [complaints]
    | secure serviceId group accessibility =>
      simp only [PreferencesSettings.complaint?] at hp
      split at hp <;> cases hp
      simp [complaints]
  | files =>
    obtain ⟨f, -, hf⟩ := Option.bind_eq_some_iff.1 h
    simp only [FilesSettings.complaint?] at hf
    split at hf <;> cases hf
    simp [complaints]
  | sync => cases h

/-- A complaint tells the section that it is about. -/
theorem kind_eq_of_complaint (hj : s.complaintIn? j = some text) (hk : s'.complaintIn? k = some text) : j = k := by
  have hapart : ∀ j k : ManagerKind, ∀ t ∈ complaints j, t ∈ complaints k → j = k := by
    intro j k
    cases j <;> cases k <;> decide
  exact hapart j k text (mem_complaints hj) (mem_complaints hk)

theorem complaint?_eq_findSome? (s : Settings) : s.complaint? = ManagerKind.all.findSome? s.complaintIn? := by
  simp only [complaint?, ManagerKind.all, List.findSome?_cons, List.findSome?_nil, complaintIn?]
  cases s.database.bind DatabaseSettings.complaint? <;> cases s.preferences.bind PreferencesSettings.complaint? <;>
    cases s.files.bind FilesSettings.complaint? <;> rfl

/-- Validity is refused for the first section that something is wrong with. -/
theorem validate_eq_error_iff {e : ConfigError} :
    s.validate = .error e ↔ ∃ kind text, e = .invalid text ∧ s.ComplainsOf kind text := by
  have hfirst : ∀ text, ManagerKind.all.findSome? s.complaintIn? = some text ↔ ∃ kind, s.ComplainsOf kind text := by
    intro text
    rw [List.findSome?_eq_some_iff]
    constructor
    · rintro ⟨before, kind, after, hall, hkind, hbefore⟩
      exact ⟨kind, hkind, fun k hk => hbefore k ((ManagerKind.order_lt_iff_mem hall).1 hk)⟩
    · rintro ⟨kind, hkind, hbefore⟩
      obtain ⟨before, after, hall⟩ := List.append_of_mem kind.mem_all
      exact ⟨before, kind, after, hall, hkind, fun k hk => hbefore k ((ManagerKind.order_lt_iff_mem hall).2 hk)⟩
  rw [validate, complaint?_eq_findSome?]
  constructor
  · intro h
    cases hs : ManagerKind.all.findSome? s.complaintIn? with
    | none =>
      rw [hs] at h
      cases h
    | some text =>
      rw [hs] at h
      cases h
      obtain ⟨kind, hkind⟩ := (hfirst text).1 hs
      exact ⟨kind, text, rfl, hkind⟩
  · rintro ⟨kind, text, rfl, hkind⟩
    rw [(hfirst text).2 ⟨kind, hkind⟩]

end Settings

/-! ## What can be built -/

variable {x : Product}

/-- A database that can be opened has a path and no empty key. -/
theorem DatabaseOption.complaint?_eq_none {d : DatabaseSettings} {isRunning : Bool}
    (h : (embedded d.path (d.encryptionKey.map Encryption.mk)).product isRunning = .ok x) : d.complaint? = none := by
  have hkey : (d.encryptionKey.map Encryption.mk).map (·.key) = d.encryptionKey := by cases d.encryptionKey <;> rfl
  have hblank : Text.trim d.path = "" ↔ (Text.trimChars d.path.toList).isEmpty = true := by
    rw [List.isEmpty_iff, Text.trim, ← String.toList_inj, String.toList_ofList, String.toList_empty]
  simp only [product, hkey, Engine.Connection.open?] at h
  split at h
  · next c hopen =>
    split at hopen
    · cases hopen
    · next hpath =>
      split at hopen
      · cases hopen
      · next hempty => rw [DatabaseSettings.complaint?, if_neg (mt hblank.1 hpath), if_neg hempty]
  · cases h

/-- Preferences can be built in a namespace and for a service with a name, and at a URL that is not empty if clients
refuse that. -/
theorem PreferencesOption.complaint?_eq_none {p : PreferencesSettings} {refusal? : String → Option ServerFault}
    (hempty : refusal? "" ≠ none) (h : (ofSettings p).product refusal? = .ok x) : p.complaint? = none := by
  cases p with
  | namespaced ns url =>
    simp only [ofSettings, product, ServerPreferences.open?] at h
    split at h
    · cases h
    · next hns =>
      have hurl : url ≠ "" := by
        rintro rfl
        obtain ⟨fault, hfault⟩ := Option.ne_none_iff_exists'.1 hempty
        rw [hfault] at h
        cases h
      rw [PreferencesSettings.complaint?, if_neg hns, if_neg hurl]
  | secure serviceId group accessibility =>
    simp only [ofSettings, product, SecurePreferences.of?] at h
    split at h
    · cases h
    · next hid => rw [PreferencesSettings.complaint?, if_neg hid]

/-- A folder has a name. -/
theorem FilesOption.complaint?_eq_none {f : FilesSettings} {roots : FileRoots}
    (h : (directory f.base f.folderName roots).product = .ok x) : f.complaint? = none := by
  have hname : f.folderName ≠ "" := by
    intro he
    rw [he] at h
    cases h
  rw [FilesSettings.complaint?, if_neg hname]

namespace StorageBuilder

open ManagerOption

variable {s : Settings} {roots : FileRoots} {b : StorageBuilder} {o : ManagerOption} {w : Workshop}

/-- The base directories for the files of some settings. -/
def rootsFor (f : FilesSettings) (roots : FileRoots) : FileRoots :=
  match f.root with
  | some root => roots.withRoot f.base root
  | none => roots

theorem mem_options_ofSettings : o ∈ (ofSettings roots s).options ↔
    (∃ d, s.database = some d ∧ o = .database (.embedded d.path (d.encryptionKey.map Encryption.mk))) ∨
      (∃ p, s.preferences = some p ∧ o = .preferences (.ofSettings p)) ∨
      (∃ f, s.files = some f ∧ o = .files (.directory f.base f.folderName (rootsFor f roots))) ∨ o = .sync .none := by
  rw [options, List.reduceOption_mem_iff]
  simp only [choices, ofSettings, List.mem_cons, List.not_mem_nil, or_false, Option.map_map, Option.map_some,
    eq_comm (a := some o), Option.map_eq_some_iff, Function.comp_apply, Option.some.injEq, eq_comm (a := o)]
  rfl

/-- Settings bring along no manager of the application's own. -/
theorem typed_of_mem_options_ofSettings (h : o ∈ (ofSettings roots s).options) : o.Typed := by
  have hbuilt : ∀ here x, o.product here ≠ .ok (.own x) := by
    intro here x hx
    rcases mem_options_ofSettings.1 h with ⟨d, -, rfl⟩ | ⟨p, -, rfl⟩ | ⟨f, -, rfl⟩ | rfl
    · simp only [product, DatabaseOption.product] at hx
      split at hx <;> cases hx
    · cases p with
      | namespaced ns url =>
        obtain ⟨m, hm⟩ := ofPreferences_built _ _ hx
        cases hm
      | secure serviceId group accessibility =>
        obtain ⟨m, hm⟩ := ofPreferences_built _ _ hx
        cases hm
    · simp only [product, FilesOption.product] at hx
      split at hx <;> cases hx
    · cases hx
  exact fun here x hx => absurd hx (hbuilt here x)

/-- The option of a section that something is wrong with cannot be built. -/
theorem exists_refused {kind : ManagerKind} {text : String} {here : Surroundings} (hempty : here.refusal? "" ≠ none)
    (h : s.complaintIn? kind = some text) (roots : FileRoots) :
    ∃ o ∈ (ofSettings roots s).options, o.kind = kind ∧ ∃ cause, o.product here = .error cause := by
  have hrefused : ∀ {o : ManagerOption}, (∀ x, o.product here ≠ .ok x) → ∃ cause, o.product here = .error cause := by
    intro o ho
    cases hp : o.product here with
    | error cause => exact ⟨cause, rfl⟩
    | ok x => exact absurd hp (ho x)
  cases kind with
  | database =>
    obtain ⟨d, hd, htext⟩ := Option.bind_eq_some_iff.1 h
    refine ⟨_, mem_options_ofSettings.2 (.inl ⟨d, hd, rfl⟩), rfl, hrefused fun x hx => ?_⟩
    rw [DatabaseOption.complaint?_eq_none hx] at htext
    cases htext
  | preferences =>
    obtain ⟨p, hp, htext⟩ := Option.bind_eq_some_iff.1 h
    refine ⟨_, mem_options_ofSettings.2 (.inr (.inl ⟨p, hp, rfl⟩)), rfl, hrefused fun x hx => ?_⟩
    rw [PreferencesOption.complaint?_eq_none hempty hx] at htext
    cases htext
  | files =>
    obtain ⟨f, hf, htext⟩ := Option.bind_eq_some_iff.1 h
    refine ⟨_, mem_options_ofSettings.2 (.inr (.inr (.inl ⟨f, hf, rfl⟩))), rfl, hrefused fun x hx => ?_⟩
    rw [FilesOption.complaint?_eq_none hx] at htext
    cases htext
  | sync => cases h

/-- Options are resolved in the order of their kinds. -/
theorem pairwise_order_options (b : StorageBuilder) : b.options.Pairwise fun o p => o.kind.order < p.kind.order := by
  have hpreferences : ManagerKind.database.order < ManagerKind.preferences.order := by decide
  have hfiles : ManagerKind.preferences.order < ManagerKind.files.order := by decide
  have hsync : ManagerKind.files.order < ManagerKind.sync.order := by decide
  rw [options, List.reduceOption, List.pairwise_filterMap]
  simp [choices, kind, hpreferences, hfiles, hsync, hpreferences.trans hfiles, hfiles.trans hsync,
    hpreferences.trans (hfiles.trans hsync)]

/-- The options that are resolved before one are those of the kinds before. -/
theorem order_lt_iff_mem_before {before after : List ManagerOption} {p : ManagerOption}
    (hos : b.options = before ++ o :: after) (hp : p ∈ b.options) : p.kind.order < o.kind.order ↔ p ∈ before := by
  obtain ⟨-, hafter, hacross⟩ := List.pairwise_append.1 (hos ▸ b.pairwise_order_options)
  rw [hos] at hp
  rcases List.mem_append.1 hp with hp | hp
  · exact iff_of_true (hacross p hp o List.mem_cons_self) hp
  · have hle : o.kind.order ≤ p.kind.order := by
      rcases List.mem_cons.1 hp with rfl | hp
      · exact Nat.le_refl _
      · exact Nat.le_of_lt ((List.pairwise_cons.1 hafter).1 p hp)
    exact iff_of_false (Nat.not_lt.2 hle) fun hb => Nat.not_lt.2 hle (hacross p hb o List.mem_cons_self)

/-! ## Where a build ends -/

/-- A build in a registry that holds nothing yet, which ends at the first option that cannot be built. -/
structure FailsAt (b : StorageBuilder) (w : Workshop) (o : ManagerOption) (cause : StorageError) : Prop where
  chosen : o ∈ b.options
  refused : o.product w.toSurroundings = .error cause
  /-- The options of the kinds before it are built. -/
  first : ∀ p ∈ b.options, p.kind.order < o.kind.order → ∃ x, p.product w.toSurroundings = .ok x
  answer : (b.build (.empty, w)).1 = .error (.failed (.buildFailure o.name cause.message))
  /-- The name in the answer is one of this kind and of no other. -/
  named : ∀ p : ManagerOption, p.name = o.name → p.kind = o.kind

/-- In an empty registry, what does not resolve cannot be built. -/
theorem faultIn?_empty_eq_some {e : StorageError} (h : o.faultIn? (.empty, w) = some e) :
    o.product w.toSurroundings = .error e := by
  have hnone : (Registry.empty : Registry Instance).manager? o.kind o.name = none := rfl
  cases ho : o.product w.toSurroundings with
  | error e' =>
    simp only [faultIn?, hnone, ho] at h
    rw [Option.some.inj h]
  | ok x =>
    simp only [faultIn?, hnone, ho] at h
    cases h

theorem faultIn?_empty_eq_none (h : o.faultIn? (.empty, w) = none) : ∃ x, o.product w.toSurroundings = .ok x := by
  have hnone : (Registry.empty : Registry Instance).manager? o.kind o.name = none := rfl
  cases ho : o.product w.toSurroundings with
  | error e =>
    simp only [faultIn?, hnone, ho] at h
    cases h
  | ok x => exact ⟨x, rfl⟩

/-- A build of which some option is refused ends at that option or at one before it. -/
theorem exists_failsAt {p : ManagerOption} {e : StorageError} (hb : ∀ o ∈ b.options, o.Typed) (hp : p ∈ b.options)
    (he : p.product w.toSurroundings = .error e) : ∃ o cause, b.FailsAt w o cause ∧ o.kind.order ≤ p.kind.order := by
  have hfault : p.faultIn? (.empty, w) ≠ none := by
    intro h
    obtain ⟨x, hx⟩ := faultIn?_empty_eq_none h
    rw [he] at hx
    cases hx
  rcases build_settles hb (.empty, w) with ⟨hall, -⟩ | ⟨before, o, after, cause, hos, hbefore, ho, hstops⟩
  · exact absurd (hall p hp) hfault
  · refine ⟨o, cause, ?_, Nat.not_lt.1 fun hlt => hfault (hbefore p ((order_lt_iff_mem_before hos hp).1 hlt))⟩
    exact {
      chosen := by simp [hos]
      refused := faultIn?_empty_eq_some ho
      first := fun q hq hlt => faultIn?_empty_eq_none (hbefore q ((order_lt_iff_mem_before hos hq).1 hlt))
      answer := congrArg Prod.fst hstops.answer
      named := fun q => kind_eq_of_name_eq }

/--
**What is refused as settings is refused as a build**, where the client of a server does not take the empty URL.
Settings that are not valid are complained of in their first faulty section, which the text tells; and whatever base
directories are known, whether or not databases can run, and whatever other URLs the client refuses, the build of what
they choose, from nothing, fails at the option of that section or of a section before it.
-/
theorem build_fails_of_invalid {s : Settings} {e : ConfigError} {w : Workshop} (h : s.validate = .error e)
    (hempty : w.refusal? "" ≠ none) :
    ∃ kind text, e = .invalid text ∧ s.ComplainsOf kind text ∧
      (∀ (s' : Settings) k, s'.ComplainsOf k text → k = kind) ∧
      ∀ roots, ∃ o cause, (ofSettings roots s).FailsAt w o cause ∧ o.kind.order ≤ kind.order := by
  obtain ⟨kind, text, rfl, hkind⟩ := Settings.validate_eq_error_iff.1 h
  refine ⟨kind, text, rfl, hkind, fun s' k hk => Settings.kind_eq_of_complaint hk.complaint hkind.complaint, ?_⟩
  intro roots
  obtain ⟨p, hp, rfl, cause, hcause⟩ := exists_refused hempty hkind.complaint roots
  exact exists_failsAt (fun o => typed_of_mem_options_ofSettings) hp hcause

/-- A database in memory, preferences at no URL, and a folder without a name. -/
def urlless : Settings := ⟨some ⟨":memory:", none⟩, some (.namespaced "app" ""), some ⟨.caches, "", none⟩, .none⟩

/-- The build comes as far as the preferences that are complained of, and not to the folder. -/
theorem build_fails_of_invalid_urlless : urlless.validate = .error (.invalid "Redis URL cannot be empty") ∧
    Workshop.start.refusal? "" = some .badUrl ∧
    ∃ kind text, ConfigError.invalid "Redis URL cannot be empty" = .invalid text ∧ urlless.ComplainsOf kind text ∧
      (∀ (s' : Settings) k, s'.ComplainsOf k text → k = kind) ∧
      ∀ roots, ∃ o cause, (ofSettings roots urlless).FailsAt .start o cause ∧ o.kind.order ≤ kind.order := by
  have hempty : Workshop.start.refusal? "" = some .badUrl := by decide
  exact ⟨by decide, hempty, build_fails_of_invalid (by decide) (by simp [hempty])⟩

end StorageBuilder

end TypedStorage
