/-
What the names of options say. A registry takes two options of one name for one manager, so a name should stand for
the resource that an option leads to, one for one. It does not: `name_iff_resource` tells exactly which options of
different resources have one name (`Merged`), and which of one resource have two (`Divided`), and what follows for the
managers that a registry gives out.

A name is put together as it was written down, with colons between. So a colon can stand for the one between
service and group; and an empty group, or a second spelling of a path, is not seen to be the same.
-/
import TypedStorage.Registry.Option
import TypedStorage.Proofs.Files.Path
import TypedStorage.Proofs.Registry.Slots
import TypedStorage.Proofs.Text.Colon

namespace TypedStorage

/-! ## Resources -/

/-- What a manager gives access to. -/
inductive Resource where
  | server (ns : String)
  | keychain (serviceId : String) (accessGroup : Option String)
  | folder (base : BaseDirectory) (path : String)
  deriving DecidableEq

def Manager.resource? : Manager → Option Resource
  | .server p => some (.server p.ns)
  | .secure p => some (.keychain p.serviceId p.accessGroup)
  | .folder f => some (.folder f.base f.path)
  | _ => none

namespace ManagerOption

/-- The resource that an option leads to; a folder has to have a place. -/
def resource? : ManagerOption → Option Resource
  | preferences (.namespaced ns _) => some (.server ns)
  | preferences (.secure serviceId accessGroup _) => some (.keychain serviceId (accessGroup.filter (· ≠ "")))
  | files (.directory base folderName roots) =>
    match Folder.of? base folderName roots with
    | .ok f => some (.folder f.base f.path)
    | .error _ => none
  | _ => none

/-- The roots below which an option leads to a folder. -/
def roots? : ManagerOption → Option FileRoots
  | files (.directory _ _ roots) => some roots
  | _ => none

/-- A manager that is built for an option is one of its resource, and of its kind. -/
theorem built_of_product {o : ManagerOption} {here : Surroundings} {m : Manager}
    (h : o.product here = .ok (.toBuild m)) : m.resource? = o.resource? ∧ m.type = .usual o.kind := by
  rcases o with (⟨path, encryption⟩ | ⟨x, name⟩) | (⟨ns, url⟩ | ⟨serviceId, group, accessibility⟩ | ⟨x, name⟩) |
    (⟨base, folderName, roots⟩ | ⟨x, name⟩) | (- | ⟨x, name⟩)
  case database.embedded =>
    simp only [product, DatabaseOption.product] at h
    split at h <;> cases h
    exact ⟨rfl, rfl⟩
  case preferences.namespaced =>
    simp only [product, PreferencesOption.product, ServerPreferences.open?] at h
    split at h
    · cases h
    · split at h <;> cases h
      exact ⟨rfl, rfl⟩
  case preferences.secure =>
    simp only [product, PreferencesOption.product, SecurePreferences.of?] at h
    split at h <;> cases h
    exact ⟨rfl, rfl⟩
  case files.directory =>
    simp only [product, FilesOption.product] at h
    split at h
    · next f hf =>
      cases h
      simp only [resource?, hf]
      exact ⟨rfl, rfl⟩
    · cases h
  case sync.none =>
    cases h
    exact ⟨rfl, rfl⟩
  all_goals cases h

end ManagerOption

/-! ## Services and groups -/

/-- What of a name tells the service and the group. -/
def keychainText (serviceId : String) : Option String → String
  | some group => serviceId ++ ":" ++ group
  | none => serviceId

/-- The beginning of one group is the end of the other service. -/
def Shifted (serviceId : String) (group : Option String) (serviceId' : String) (group' : Option String) : Prop :=
  ∃ part, serviceId' = serviceId ++ ":" ++ part ∧ group = some (keychainText part group')

theorem keychainText_eq_iff {s s' : String} {g g' : Option String} : keychainText s g = keychainText s' g' ↔
    (s = s' ∧ g = g') ∨ Shifted s g s' g' ∨ Shifted s' g' s g := by
  cases g with
  | none => cases g' with
    | none => simp [keychainText, Shifted]
    | some h => simp [keychainText, Shifted]
  | some h => cases g' with
    | none => simp [keychainText, Shifted, eq_comm]
    | some h' =>
      simp only [keychainText, Shifted, Option.some.injEq]
      exact colon_eq_iff

theorem Shifted.ne {s s' : String} {g g' : Option String} (h : Shifted s g s' g') : s ≠ s' := by
  obtain ⟨part, rfl, -⟩ := h
  intro he
  have hlength := congrArg String.length he
  simp only [String.length_append] at hlength
  have : ":".length = 1 := rfl
  omega

theorem filter_some_group (h : String) : (some h).filter (· ≠ "") = if h = "" then none else some h := by
  simp only [Option.filter, decide_eq_true_eq, ne_eq, ite_not]

/-- Groups that are as good as the same. -/
theorem filter_group_eq_iff {g g' : Option String} : g.filter (· ≠ "") = g'.filter (· ≠ "") ↔
    g = g' ∨ (g = none ∧ g' = some "") ∨ (g = some "" ∧ g' = none) := by
  have hnone : (none : Option String).filter (· ≠ "") = none := rfl
  rcases g with - | h <;> rcases g' with - | h' <;> simp only [hnone, filter_some_group]
  · simp
  · split <;> simp_all
  · split <;> simp_all
  · split <;> split <;> simp_all [eq_comm]

theorem PreferencesOption.name_secure (s : String) (g : Option String) (a : Accessibility) :
    (secure s g a).name = "preferences:secure:" ++ keychainText s g := by
  unfold name
  cases g with
  | none => rfl
  | some group => simp only [keychainText, String.append_assoc]

theorem PreferencesOption.name_namespaced_ne (ns url s : String) (g : Option String) (a : Accessibility) :
    (namespaced ns url).name ≠ (secure s g a).name := by
  rw [name_secure]
  intro h
  have htake : ("preferences:namespace:" ++ ns).toList.take 13 =
      ("preferences:secure:" ++ keychainText s g).toList.take 13 := congrArg (fun t => t.toList.take 13) h
  simp only [String.toList_append] at htake
  rw [List.take_append_of_le_length (by decide), List.take_append_of_le_length (by decide)] at htake
  exact absurd htake (by decide)

/-! ## Folders -/

theorem FilesOption.name_directory_eq_iff {base base' : BaseDirectory} {f f' : String} (roots roots' : FileRoots) :
    (directory base f roots).name = (directory base' f' roots').name ↔ base = base' ∧ f = f' := by
  have hcolon : ∀ (b b' : BaseDirectory) (m : String), b.name ≠ b'.name ++ ":" ++ m := by
    intro b b' m h
    have hmem : ':' ∈ b.name.toList := by simp [h]
    revert hmem
    cases b <;> decide
  have hname : ∀ b b' : BaseDirectory, b.name = b'.name ↔ b = b' := by
    intro b b'
    cases b <;> cases b' <;> decide
  have hassoc : ∀ b g : String, "files:" ++ b ++ ":" ++ g = "files:" ++ (b ++ ":" ++ g) := by
    intro b g
    simp only [String.append_assoc]
  rw [name, name, hassoc, hassoc, String.append_right_inj, colon_eq_iff, hname]
  constructor
  · rintro (h | ⟨m, h, -⟩ | ⟨m, h, -⟩)
    · exact h
    · exact absurd h (hcolon _ _ m)
    · exact absurd h (hcolon _ _ m)
  · exact Or.inl

/-- Where the folder of an option is. -/
theorem Folder.eq_of_of? {base : BaseDirectory} {name : String} {roots : FileRoots} {f : Folder}
    (h : Folder.of? base name roots = .ok f) :
    ∃ root, roots.root? base = some root ∧ f = ⟨base, Path.join root (Path.names name)⟩ := by
  rw [Folder.of?, Folder.inner, Path.innerNames?] at h
  split at h
  · cases h
  · next ns hns =>
    split at hns
    · next hinner =>
      split at hinner <;> cases hinner
      cases hns
      split at h
      · next root hroot =>
        cases h
        exact ⟨root, hroot, rfl⟩
      · cases h
    · cases hns

namespace ManagerOption

/-! ## Where names and resources part -/

/-- One name for two resources: a colon in a service can stand before a group as well. -/
def Merged : ManagerOption → ManagerOption → Prop
  | preferences (.secure s g _), preferences (.secure s' g' _) => Shifted s g s' g' ∨ Shifted s' g' s g
  | _, _ => False

/-- Two names for one resource: an empty group is none, and a path can be spelled in many ways. -/
def Divided : ManagerOption → ManagerOption → Prop
  | preferences (.secure s g _), preferences (.secure s' g' _) =>
    s = s' ∧ ((g = none ∧ g' = some "") ∨ (g = some "" ∧ g' = none))
  | files (.directory base f _), files (.directory base' f' _) => base = base' ∧ f ≠ f' ∧ Path.names f = Path.names f'
  | _, _ => False

variable {a b : ManagerOption} {x y : Resource}

theorem resource?_directory {base : BaseDirectory} {f : String} {roots : FileRoots}
    (h : resource? (files (.directory base f roots)) = some x) :
    ∃ root, roots.root? base = some root ∧ x = .folder base (Path.join root (Path.names f)) := by
  simp only [resource?] at h
  split at h
  · next d hd =>
    obtain ⟨root, hroot, rfl⟩ := Folder.eq_of_of? hd
    exact ⟨root, hroot, (Option.some.inj h).symm⟩
  · cases h

/-- Folders over the same roots are one where the names on the way are the same. -/
theorem resource_directory_eq_iff {base base' : BaseDirectory} {f f' : String} {roots : FileRoots}
    (hx : resource? (files (.directory base f roots)) = some x)
    (hy : resource? (files (.directory base' f' roots)) = some y) :
    x = y ↔ base = base' ∧ Path.names f = Path.names f' := by
  obtain ⟨root, hroot, rfl⟩ := resource?_directory hx
  obtain ⟨root', hroot', rfl⟩ := resource?_directory hy
  constructor
  · intro h
    injection h with hbase hpath
    subst hbase
    rw [hroot] at hroot'
    cases hroot'
    exact ⟨rfl, (Path.join_inj (fun _ => Path.isName_of_mem_names) fun _ => Path.isName_of_mem_names).1 hpath⟩
  · rintro ⟨rfl, hnames⟩
    rw [hroot] at hroot'
    cases hroot'
    rw [hnames]

/-- Where the names of two options, with resources, part from these. -/
def Parts (a b : ManagerOption) (x y : Resource) : Prop :=
  (a.name = b.name ∧ x ≠ y ↔ Merged a b) ∧ (a.name ≠ b.name ∧ x = y ↔ Divided a b)

theorem parts_namespaced (ns url ns' url' : String) :
    Parts (preferences (.namespaced ns url)) (preferences (.namespaced ns' url')) (.server ns) (.server ns') := by
  have hname : (preferences (.namespaced ns url)).name = (preferences (.namespaced ns' url')).name ↔ ns = ns' :=
    String.append_right_inj "preferences:namespace:"
  simp [Parts, hname, Merged, Divided]

theorem parts_secure (s s' : String) (g g' : Option String) (acc acc' : Accessibility) :
    Parts (preferences (.secure s g acc)) (preferences (.secure s' g' acc'))
      (.keychain s (g.filter (· ≠ ""))) (.keychain s' (g'.filter (· ≠ ""))) := by
  have hname : (preferences (.secure s g acc)).name = (preferences (.secure s' g' acc')).name ↔
      (s = s' ∧ g = g') ∨ Shifted s g s' g' ∨ Shifted s' g' s g := by
    rw [← keychainText_eq_iff, name, name, PreferencesOption.name_secure, PreferencesOption.name_secure,
      String.append_right_inj]
  have hne : Shifted s g s' g' ∨ Shifted s' g' s g → s ≠ s' := fun h => h.elim Shifted.ne fun h => h.ne.symm
  simp only [Parts, ne_eq, hname, Resource.keychain.injEq, filter_group_eq_iff]
  refine ⟨⟨?_, ?_⟩, ⟨?_, ?_⟩⟩
  · rintro ⟨⟨rfl, rfl⟩ | h, hxy⟩
    · exact absurd ⟨rfl, .inl rfl⟩ hxy
    · exact h
  · exact fun h => ⟨.inr h, fun hxy => hne h hxy.1⟩
  · rintro ⟨hn, rfl, rfl | h⟩
    · exact absurd (.inl ⟨rfl, rfl⟩) hn
    · exact ⟨rfl, h⟩
  · rintro ⟨rfl, h⟩
    refine ⟨?_, rfl, .inr h⟩
    rintro (⟨-, rfl⟩ | hs)
    · rcases h with ⟨rfl, h⟩ | ⟨rfl, h⟩ <;> cases h
    · exact hne hs rfl

theorem parts_directory {base base' : BaseDirectory} {f f' : String} {roots : FileRoots}
    (hx : resource? (files (.directory base f roots)) = some x)
    (hy : resource? (files (.directory base' f' roots)) = some y) :
    Parts (files (.directory base f roots)) (files (.directory base' f' roots)) x y := by
  have hname : (files (.directory base f roots)).name = (files (.directory base' f' roots)).name ↔ base = base' ∧ f = f' :=
    FilesOption.name_directory_eq_iff roots roots
  simp only [Parts, ne_eq, hname, resource_directory_eq_iff hx hy]
  refine ⟨⟨?_, ?_⟩, ⟨?_, ?_⟩⟩
  · rintro ⟨⟨rfl, rfl⟩, hxy⟩
    exact absurd ⟨rfl, rfl⟩ hxy
  · exact False.elim
  · rintro ⟨hn, rfl, hnames⟩
    exact ⟨rfl, fun hf => hn ⟨rfl, hf⟩, hnames⟩
  · rintro ⟨rfl, hf, hnames⟩
    exact ⟨fun hn => hf hn.2, rfl, hnames⟩

theorem cases_of_resource? (h : a.resource? = some x) :
    (∃ ns url, a = preferences (.namespaced ns url) ∧ x = .server ns) ∨
      (∃ s g acc, a = preferences (.secure s g acc) ∧ x = .keychain s (g.filter (· ≠ ""))) ∨
      ∃ base f roots, a = files (.directory base f roots) := by
  rcases a with _ | (⟨ns, url⟩ | ⟨s, g, acc⟩ | _) | (⟨base, f, roots⟩ | _) | _
  case preferences.namespaced => exact .inl ⟨ns, url, rfl, (Option.some.inj h).symm⟩
  case preferences.secure => exact .inr (.inl ⟨s, g, acc, rfl, (Option.some.inj h).symm⟩)
  case files.directory => exact .inr (.inr ⟨base, f, roots, rfl⟩)
  all_goals cases h

/-- Options of different sorts have different names and different resources. -/
theorem parts (ha : a.resource? = some x) (hb : b.resource? = some y) (hroots : a.roots? = b.roots?) : Parts a b x y := by
  rcases cases_of_resource? ha with ⟨ns, url, rfl, rfl⟩ | ⟨s, g, acc, rfl, rfl⟩ | ⟨base, f, roots, rfl⟩ <;>
    rcases cases_of_resource? hb with ⟨ns', url', rfl, rfl⟩ | ⟨s', g', acc', rfl, rfl⟩ | ⟨base', f', roots', rfl⟩ <;>
    try cases hroots
  · exact parts_namespaced ns url ns' url'
  · have hname := PreferencesOption.name_namespaced_ne ns url s' g' acc'
    simp [Parts, Merged, Divided, name, hname]
  · have hname := PreferencesOption.name_namespaced_ne ns' url' s g acc
    simp [Parts, Merged, Divided, name, hname.symm]
  · exact parts_secure s s' g g' acc acc'
  · exact parts_directory ha hb

/-- An option whose parts are told from its name. -/
def Plain : ManagerOption → Prop
  | preferences (.secure s g _) => ':' ∉ s.toList ∧ g ≠ some ""
  | files (.directory _ f _) => f = "/".intercalate (Path.names f)
  | _ => True

theorem not_shifted {s s' : String} {g g' : Option String} (h : ':' ∉ s'.toList) : ¬ Shifted s g s' g' := by
  rintro ⟨part, rfl, -⟩
  simp at h

/-- **Names of plain options stand for resources**, one for one. -/
theorem name_eq_iff_of_plain (ha : a.resource? = some x) (hb : b.resource? = some y) (hroots : a.roots? = b.roots?)
    (hpa : a.Plain) (hpb : b.Plain) : a.name = b.name ↔ x = y := by
  obtain ⟨hmerged, hdivided⟩ := parts ha hb hroots
  constructor
  · intro hname
    by_contra hxy
    have hm := hmerged.1 ⟨hname, hxy⟩
    unfold Merged at hm
    split at hm
    · exact hm.elim (not_shifted hpb.1) (not_shifted hpa.1)
    · exact hm
  · intro hxy
    by_contra hname
    have hd := hdivided.1 ⟨hname, hxy⟩
    unfold Divided at hd
    split at hd
    · rcases hd.2 with ⟨-, hg⟩ | ⟨hg, -⟩
      · exact hpb.2 hg
      · exact hpa.2 hg
    · obtain ⟨-, hne, hnames⟩ := hd
      rw [Plain, hnames] at hpa
      exact hne (hpa.trans hpb.symm)
    · exact hd

/-! ## What a registry makes of it -/

variable {r : Registry Instance} {w : Workshop} {m m' : Manager}

theorem build_apply (a : ManagerOption) (r : Registry Instance) (w : Workshop) :
    a.build (r, w) = match a.product w.toSurroundings with
      | .error e => (.error (.failed e), (r, w))
      | .ok (.toBuild m) => (.ok ⟨.built w.built, m⟩, (r, { w with built := w.built + 1 }))
      | .ok (.own z) => (.ok z, (r, w)) := by
  show (match a.product w.toSurroundings with
    | .error e => throw (.failed e)
    | .ok (.toBuild m) => Attempt.finish m
    | .ok (.own z) => return z : Attempt.InWorkshop Instance) (r, w) = _
  rcases a.product w.toSurroundings with e | (m | z) <;> rfl

/-- A manager is built from what an option says, and the registry is left alone. -/
theorem build_of_product (h : a.product w.toSurroundings = .ok (.toBuild m)) :
    a.build (r, w) = (.ok ⟨.built w.built, m⟩, (r, { w with built := w.built + 1 })) := by
  rw [build_apply, h]

theorem build_of_error {e : StorageError} (h : a.product w.toSurroundings = .error e) :
    a.build (r, w) = (.error (.failed e), (r, w)) := by
  rw [build_apply, h]

/-- Where there is nothing yet, it is built. -/
theorem tryGet_of_product (h : a.product w.toSurroundings = .ok (.toBuild m)) (hr : r.manager? a.kind a.name = none) :
    Registry.tryGet a.offer (r, w) = (.ok ⟨.built w.built, m⟩,
      ((r.reserve a.kind a.name).fill a.kind a.name ⟨.built w.built, m⟩, { w with built := w.built + 1 })) := by
  simp only [Registry.tryGet, offer, hr, build_of_product h]

/-- What is there is given out again. -/
theorem tryGet_of_manager? {z : Instance} (hr : r.manager? a.kind a.name = some z)
    (hz : z.manager.type = .usual a.kind) : Registry.tryGet a.offer (r, w) = (.ok z, (r, w)) := by
  simp [Registry.tryGet, offer, hr, Instance.ofType, hz]

theorem ofPreferences_built {α : Type} (f : α → Manager) (p : Except PreferencesError α) {q : Product}
    (h : PreferencesOption.ofPreferences f p = .ok q) : ∃ m, q = .toBuild m := by
  rcases p with e | p
  · cases e <;> cases h
  · cases h
    exact ⟨f p, rfl⟩

/-- What has a resource is built, and not brought along. -/
theorem product_of_resource? {here : Surroundings} {q : Product} (ha : a.resource? = some x)
    (h : a.product here = .ok q) : ∃ m, q = .toBuild m := by
  rcases cases_of_resource? ha with ⟨ns, url, rfl, -⟩ | ⟨s, g, acc, rfl, -⟩ | ⟨base, f, roots, rfl⟩
  · exact ofPreferences_built _ _ h
  · exact ofPreferences_built _ _ h
  · simp only [product, FilesOption.product] at h
    split at h <;> cases h
    exact ⟨_, rfl⟩

/-- What was given out for an option that leads to a resource is there, and will do for its kind. -/
theorem there_of_tryGet {c : Registry Instance × Workshop} {z : Instance} (ha : a.resource? = some x)
    (h : Registry.tryGet a.offer (r, w) = (.ok z, c)) :
    c.1.manager? a.kind a.name = some z ∧ z.manager.type = .usual a.kind := by
  cases hr : r.manager? a.kind a.name with
  | some z' =>
    simp only [Registry.tryGet, offer, hr, Instance.ofType, decide_eq_true_eq] at h
    by_cases hz : z'.manager.type = .usual a.kind
    · rw [if_pos hz] at h
      cases h
      exact ⟨hr, hz⟩
    · rw [if_neg hz] at h
      cases h
  | none =>
    cases hp : a.product w.toSurroundings with
    | error e =>
      simp only [Registry.tryGet, offer, hr, build_of_error hp] at h
      cases h
    | ok q =>
      obtain ⟨m, rfl⟩ := product_of_resource? ha hp
      rw [tryGet_of_product hp hr] at h
      cases h
      refine ⟨?_, (built_of_product hp).2⟩
      rw [Registry.manager?_eq, Registry.slot?_fill, if_pos rfl]
      rfl

/-- Merged options have one name in the registry, and different resources. -/
theorem Merged.apart (h : Merged a b) (ha : a.resource? = some x) (hb : b.resource? = some y) : a.kind = b.kind ∧
    a.name = b.name ∧ x ≠ y := by
  unfold Merged at h
  split at h
  · next s g acc s' g' acc' =>
    obtain ⟨hname, hne⟩ := (parts_secure s s' g g' acc acc').1.2 h
    cases ha
    cases hb
    exact ⟨rfl, hname, hne⟩
  · exact h.elim

/--
**The second of two merged options gets the manager of the first.** So one of the two got a manager that is none of
its resource.
-/
theorem Merged.same_manager {c : Registry Instance × Workshop} {z : Instance} (hm : Merged a b)
    (ha : a.resource? = some x) (hb : b.resource? = some y) (h : Registry.tryGet a.offer (r, w) = (.ok z, c)) :
    Registry.tryGet b.offer c = (.ok z, c) ∧ ¬(z.manager.resource? = some x ∧ z.manager.resource? = some y) := by
  obtain ⟨hkind, hname, hne⟩ := hm.apart ha hb
  obtain ⟨hthere, htype⟩ := there_of_tryGet ha h
  rw [hkind] at hthere htype
  rw [hname] at hthere
  refine ⟨tryGet_of_manager? hthere htype, ?_⟩
  rintro ⟨hzx, hzy⟩
  exact hne (Option.some.inj (hzx.symm.trans hzy))

/-- **Divided options get two managers of one resource**, where none is there yet. -/
theorem Divided.two_managers (hd : Divided a b) (ha : a.resource? = some x) (hb : b.resource? = some y)
    (hroots : a.roots? = b.roots?) (hpa : a.product w.toSurroundings = .ok (.toBuild m))
    (hpb : b.product w.toSurroundings = .ok (.toBuild m')) (hra : r.manager? a.kind a.name = none)
    (hrb : r.manager? b.kind b.name = none) :
    (Registry.tryGet a.offer (r, w)).1 = .ok ⟨.built w.built, m⟩ ∧
      (Registry.tryGet b.offer (Registry.tryGet a.offer (r, w)).2).1 = .ok ⟨.built (w.built + 1), m'⟩ ∧
      m.resource? = some x ∧ m'.resource? = some x := by
  obtain ⟨hname, rfl⟩ := (parts ha hb hroots).2.2 hd
  have hrb' : ((r.reserve a.kind a.name).fill a.kind a.name ⟨.built w.built, m⟩).manager? b.kind b.name = none := by
    have hkey : (b.kind, b.name) ≠ (a.kind, a.name) := fun h => hname (Prod.mk.inj h).2.symm
    rw [Registry.manager?_eq, Registry.slot?_fill, if_neg hkey, Registry.slot?_reserve, if_neg hkey]
    exact hrb
  have hsecond := tryGet_of_product (a := b) (w := { w with built := w.built + 1 }) hpb hrb'
  rw [tryGet_of_product hpa hra]
  exact ⟨rfl, congrArg Prod.fst hsecond, (built_of_product hpa).1.trans ha, (built_of_product hpb).1.trans hb⟩

/-! ## Names and resources -/

/--
**Where names and resources part.** Of two options that lead to resources, folders over the same roots, the names are
the same and the resources are not exactly when they are merged; the other way round when they are divided. So names of
plain options stand for resources. Whoever asks a registry for the second of two merged options is given the manager of
the first, which is none of its resource; and divided options get two managers of one resource.
-/
theorem name_iff_resource (ha : a.resource? = some x) (hb : b.resource? = some y) (hroots : a.roots? = b.roots?) :
    (a.name = b.name ∧ x ≠ y ↔ Merged a b) ∧ (a.name ≠ b.name ∧ x = y ↔ Divided a b) ∧
      (a.Plain → b.Plain → (a.name = b.name ↔ x = y)) ∧
      (Merged a b → ∀ r w z c, Registry.tryGet a.offer (r, w) = (.ok z, c) → Registry.tryGet b.offer c = (.ok z, c) ∧
        ¬(z.manager.resource? = some x ∧ z.manager.resource? = some y)) ∧
      (Divided a b → ∀ r w m m', a.product w.toSurroundings = .ok (.toBuild m) →
        b.product w.toSurroundings = .ok (.toBuild m') → r.manager? a.kind a.name = none →
        r.manager? b.kind b.name = none → (Registry.tryGet a.offer (r, w)).1 = .ok ⟨.built w.built, m⟩ ∧
          (Registry.tryGet b.offer (Registry.tryGet a.offer (r, w)).2).1 = .ok ⟨.built (w.built + 1), m'⟩ ∧
          m.resource? = some x ∧ m'.resource? = some x) := by
  obtain ⟨hmerged, hdivided⟩ := parts ha hb hroots
  refine ⟨hmerged, hdivided, name_eq_iff_of_plain ha hb hroots, fun hm r w z c h => ?_, fun hd r w m m' hm hm' hr hr' => ?_⟩
  · exact hm.same_manager ha hb h
  · exact hd.two_managers ha hb hroots hm hm' hr hr'

theorem name_iff_resource_keychains :
    let a := preferences (.secure "mail" (some "team") .whenUnlocked)
    let b := preferences (.secure "mail:team" none .whenUnlocked)
    let x := Resource.keychain "mail" (some "team")
    let y := Resource.keychain "mail:team" none
    a.resource? = some x ∧ b.resource? = some y ∧ a.roots? = b.roots? ∧
      (a.name = b.name ∧ x ≠ y ↔ Merged a b) ∧ (a.name ≠ b.name ∧ x = y ↔ Divided a b) ∧
      ∀ r w z c, Registry.tryGet a.offer (r, w) = (.ok z, c) → Registry.tryGet b.offer c = (.ok z, c) := by
  intro a b x y
  have ha : a.resource? = some x := by decide
  have hb : b.resource? = some y := by decide
  obtain ⟨hmerged, hdivided, -, hsame, -⟩ := name_iff_resource ha hb rfl
  have hm : Merged a b := hmerged.1 ⟨by decide, by decide⟩
  exact ⟨ha, hb, rfl, hmerged, hdivided, fun r w z c h => (hsame hm r w z c h).1⟩

/-- A name does not say which resource is meant. -/
theorem not_name_iff_resource : ¬ ∀ (a b : ManagerOption) (x y : Resource), a.resource? = some x → b.resource? = some y →
    a.roots? = b.roots? → (a.name = b.name ↔ x = y) := by
  intro h
  have hname := (h (preferences (.secure "mail" (some "team") .whenUnlocked))
    (preferences (.secure "mail:team" none .whenUnlocked)) (.keychain "mail" (some "team")) (.keychain "mail:team" none)
    (by decide) (by decide) rfl).1 (by decide)
  exact absurd hname (by decide)

end ManagerOption

end TypedStorage
