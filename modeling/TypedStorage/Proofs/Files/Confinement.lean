/-
Files stay inside their folder (`confined`). A path is let through exactly when it goes from the folder down, by at
least one name and never up again; then it leads to a place that is the folder with these names behind it, and two
paths lead to one place exactly when their names are the same. Any other path is refused, and nothing is touched.
The name of a folder is held to the same rule, so a folder is inside its root.

This is about paths as text. What stands at a place, and whether the tree has links that lead elsewhere, is no part
of it.
-/
import TypedStorage.Files.Folder
import TypedStorage.Proofs.Files.Path

namespace TypedStorage

namespace Path

/-- A path from a folder down. -/
structure IsInner (p : String) : Prop where
  relative : p.toList.head? ≠ some '/'
  not_up : ".." ∉ steps p
  nonempty : ∃ s ∈ steps p, s ≠ "" ∧ s ≠ "."

/-- A place with these names behind another, at least one, and each of them one step down. -/
structure IsBelow (top : String) (ns : List String) (place : String) : Prop where
  text : place = push top ("/".intercalate ns)
  names : names place = names top ++ ns
  nonempty : ns ≠ []
  down : ∀ n ∈ ns, n ≠ "" ∧ n ≠ "." ∧ n ≠ ".." ∧ '/' ∉ n.toList

/-- The same path without needless steps. -/
def clean (p : String) : String := "/".intercalate (names p)

theorem mem_names {p s : String} : s ∈ names p ↔ s ∈ steps p ∧ s ≠ "" ∧ s ≠ "." := by
  rw [names, List.mem_filter, decide_eq_true_eq]

theorem isInner_iff {p : String} : IsInner p ↔ ¬(isAbsolute p ∨ ".." ∈ names p ∨ names p = []) := by
  have hup : ".." ∈ names p ↔ ".." ∈ steps p := by simp [mem_names]
  have hnil : names p ≠ [] ↔ ∃ s ∈ steps p, s ≠ "" ∧ s ≠ "." := by
    simp only [← mem_names]
    exact ⟨List.exists_mem_of_ne_nil _, fun ⟨_, hs⟩ => List.ne_nil_of_mem hs⟩
  rw [not_or, not_or, hup, ← ne_eq (names p), hnil, isAbsolute, decide_eq_true_eq]
  exact ⟨fun h => ⟨h.relative, h.not_up, h.nonempty⟩, fun h => ⟨h.1, h.2.1, h.2.2⟩⟩

theorem innerNames?_of_isInner {p : String} (h : IsInner p) : innerNames? p = some (names p) :=
  if_neg (isInner_iff.1 h)

theorem innerNames?_eq_none {p : String} (h : ¬IsInner p) : innerNames? p = none :=
  if_pos (Classical.not_not.1 fun hn => h (isInner_iff.2 hn))

/-! ## Places -/

/-- What a path puts in front of a name does not depend on the name. -/
theorem exists_push_eq (base : String) : ∃ front, ∀ name, push base name = front ++ name := by
  unfold push
  split
  · exact ⟨base, fun _ => rfl⟩
  · exact ⟨base ++ "/", fun _ => rfl⟩

/-- Behind a name a slash is needed. -/
theorem push_push {name : String} (h : IsName name) (base rest : String) :
    push (push base name) rest = push base (name ++ "/" ++ rest) := by
  obtain ⟨front, hfront⟩ := exists_push_eq base
  obtain ⟨c, hc⟩ := Option.ne_none_iff_exists'.1 fun hn =>
    h.nonempty (String.toList_eq_nil_iff.1 (List.getLast?_eq_none_iff.1 hn))
  have hend : (front ++ name).toList.getLast? = some c := by
    rw [String.toList_append, List.getLast?_append, hc, Option.some_or]
  have hslash : c ≠ '/' := fun he => h.one (he ▸ List.mem_of_getLast? hc)
  have hempty : front ++ name ≠ "" := by
    intro he
    rw [he] at hend
    cases hend
  rw [hfront, hfront, push, if_neg]
  · simp only [String.append_assoc]
  · rw [hend, Option.some.injEq]
    exact not_or.2 ⟨hempty, hslash⟩

/-- Names are put behind a path with one slash between each and the next. -/
theorem join_eq_push {ns : List String} (h : ∀ n ∈ ns, IsName n) (hne : ns ≠ []) (base : String) :
    join base ns = push base ("/".intercalate ns) := by
  induction ns generalizing base with
  | nil => exact absurd rfl hne
  | cons n ns ih =>
    have hn := h n List.mem_cons_self
    cases ns with
    | nil => rw [String.intercalate_singleton]; rfl
    | cons m ms =>
      have ih := ih (fun k hk => h k (List.mem_cons_of_mem n hk)) (List.cons_ne_nil m ms) (push base n)
      rw [String.intercalate_cons_cons, ← push_push hn]
      exact ih

theorem isBelow_join {ns : List String} (h : ∀ n ∈ ns, IsName n) (hup : ".." ∉ ns) (hne : ns ≠ []) (top : String) :
    IsBelow top ns (join top ns) where
  text := join_eq_push h hne top
  names := names_join h top
  nonempty := hne
  down n hn := ⟨(h n hn).nonempty, (h n hn).no_dot, fun he => hup (he ▸ hn), (h n hn).one⟩

/-- An inner path leads below wherever it starts. -/
theorem IsInner.isBelow {p : String} (h : IsInner p) (top : String) :
    IsBelow top (Path.names p) (join top (Path.names p)) := by
  have hinner := isInner_iff.1 h
  simp only [not_or] at hinner
  exact isBelow_join (fun _ => isName_of_mem_names) hinner.2.1 hinner.2.2 top

/-! ## Clean paths -/

theorem names_clean {p : String} (h : names p ≠ []) : names (clean p) = names p := by
  have hnames := fun n (hn : n ∈ names p) => isName_of_mem_names hn
  have hjoin : clean p = join "" (names p) := by rw [join_eq_push hnames h]; rfl
  rw [hjoin, names_join hnames]
  rfl

/-- The clean form of an inner path is one. -/
theorem IsInner.clean {p : String} (h : IsInner p) : IsInner (Path.clean p) := by
  have hinner := isInner_iff.1 h
  simp only [not_or] at hinner
  obtain ⟨-, hup, hne⟩ := hinner
  refine isInner_iff.2 ?_
  rw [names_clean hne]
  refine not_or.2 ⟨?_, not_or.2 ⟨hup, hne⟩⟩
  obtain ⟨n, ns, hns⟩ := List.exists_cons_of_ne_nil hne
  have hn : IsName n := isName_of_mem_names (hns ▸ List.mem_cons_self)
  obtain ⟨c, cs, hcs⟩ := List.exists_cons_of_ne_nil fun he => hn.nonempty (String.toList_eq_nil_iff.1 he)
  -- the first character of a clean path is that of its first name
  have hhead : (Path.clean p).toList.head? = some c := by
    rw [Path.clean, hns]
    cases ns <;> simp [String.intercalate_cons_cons, hcs]
  have hslash : c ≠ '/' := fun he => hn.one (by simp [hcs, he])
  simpa [isAbsolute, hhead] using hslash

end Path

namespace Folder

open TypedStorage.Path

theorem resolve_of_isInner (f : Folder) {p : String} (h : IsInner p) : f.resolve p = .ok (join f.path (names p)) := by
  rw [resolve, inner, innerNames?_of_isInner h]
  rfl

theorem resolve_eq_error (f : Folder) {p : String} (h : ¬IsInner p) : f.resolve p = .error (.invalidPath p) := by
  rw [resolve, inner, innerNames?_eq_none h]
  rfl

theorem isInner_of_resolve {f : Folder} {p place : String} (h : f.resolve p = .ok place) :
    IsInner p ∧ place = join f.path (names p) := by
  by_cases hp : IsInner p
  · rw [f.resolve_of_isInner hp] at h
    exact ⟨hp, (Except.ok.inj h).symm⟩
  · rw [f.resolve_eq_error hp] at h
    cases h

theorem bind_apply {α β : Type} (a : FolderAccess α) (next : α → FolderAccess β) (t : FileTree) : (a >>= next) t =
    match a t with
    | (.ok x, t') => next x t'
    | (.error e, t') => (.error e, t') := by
  show (match a t with | (r, t') => ExceptT.bindCont next r t') = _
  rcases a t with ⟨_ | _, t'⟩ <;> rfl

/-- Saving writes at the place of the path, if there is one. -/
theorem save_apply (f : Folder) (p : String) (bytes : List UInt8) (t : FileTree) : f.save p bytes t =
    match f.resolve p with
    | .error e => (.error e, t)
    | .ok place =>
      let (r, t') := FileTree.save (Path.names place) bytes t
      ((r.mapError FileError.system).map fun _ => place, t') := by
  unfold save
  cases f.resolve p with
  | error e => rfl
  | ok place =>
    show (access (FileTree.save (Path.names place) bytes) .system >>= fun _ => pure place : FolderAccess String) t = _
    rw [bind_apply, access]
    dsimp only
    rcases FileTree.save (Path.names place) bytes t with ⟨_ | _, _⟩ <;> rfl

theorem delete_apply (f : Folder) (p : String) (t : FileTree) : f.delete p t =
    match f.resolve p with
    | .error e => (.error e, t)
    | .ok place =>
      let (r, t') := FileTree.delete (Path.names place) t
      (r.mapError fun fault => if fault = .notFound then .notFound place else .system fault, t') := by
  unfold delete
  cases f.resolve p with
  | error e => rfl
  | ok place =>
    show access (FileTree.delete (Path.names place)) _ t = _
    dsimp only
    rw [access]
    rcases FileTree.delete (Path.names place) t with ⟨fault | _, _⟩
    · cases fault <;> rfl
    · rfl

/-- What is saved is at the place of its path. -/
theorem resolve_of_save {f : Folder} {p place : String} {bytes : List UInt8} {t t' : FileTree}
    (h : f.save p bytes t = (.ok place, t')) : f.resolve p = .ok place := by
  rw [save_apply] at h
  cases hp : f.resolve p with
  | error e =>
    rw [hp] at h
    cases h
  | ok q =>
    rw [hp] at h
    rcases hr : FileTree.save (Path.names q) bytes t with ⟨fault | u, t''⟩
    · simp only [hr] at h
      cases h
    · simp only [hr] at h
      cases h
      rfl

/-- What a folder lets through, and where that leads. -/
structure Confined (f : Folder) : Prop where
  /-- A path is let through exactly when it is inner. -/
  accepts : ∀ p, (∃ place, f.resolve p = .ok place) ↔ IsInner p
  /-- It leads to the place below the folder that has the names of the path. -/
  inside : ∀ p place, f.resolve p = .ok place → IsBelow f.path (names p) place
  /-- Any other path is refused, -/
  refuses : ∀ p, ¬IsInner p → f.resolve p = .error (.invalidPath p)
  /-- and nothing is written at it or near it, -/
  saves_nothing : ∀ p, ¬IsInner p → ∀ bytes t, f.save p bytes t = (.error (.invalidPath p), t)
  /-- nor taken away. -/
  deletes_nothing : ∀ p, ¬IsInner p → ∀ t, f.delete p t = (.error (.invalidPath p), t)
  /-- What is saved is where its path leads. -/
  saved : ∀ p bytes t t' place, f.save p bytes t = (.ok place, t') → f.resolve p = .ok place
  /-- A place is told by names, however the path is spelled. -/
  same : ∀ p q a b, f.resolve p = .ok a → f.resolve q = .ok b → (a = b ↔ names p = names q)
  /-- The clean spelling is one of them. -/
  cleaned : ∀ p place, f.resolve p = .ok place → f.resolve (clean p) = .ok place

/-- How a folder is found by its name. -/
structure Founded (base : BaseDirectory) (name : String) (roots : FileRoots) : Prop where
  /-- Only an inner name will do, -/
  refuses : ¬IsInner name → of? base name roots = .error (.invalidPath name)
  /-- the base directory must be known, -/
  rootless : IsInner name → roots.root? base = none → of? base name roots = .error (.missingRoot base.name)
  /-- and then the folder is below it. -/
  inside : IsInner name → ∀ root, roots.root? base = some root →
    ∃ path, of? base name roots = .ok ⟨base, path⟩ ∧ IsBelow root (names name) path

/-- **No path leads out of a folder**, and no name puts a folder out of its root. -/
theorem confined : (∀ f : Folder, f.Confined) ∧ ∀ base name roots, Founded base name roots := by
  refine ⟨fun f => ?_, fun base name roots => ?_⟩
  · exact {
      accepts := fun p => ⟨fun ⟨_, h⟩ => (isInner_of_resolve h).1, fun h => ⟨_, f.resolve_of_isInner h⟩⟩
      inside := by
        intro p place h
        obtain ⟨hp, rfl⟩ := isInner_of_resolve h
        exact hp.isBelow f.path
      refuses := fun p => f.resolve_eq_error
      saves_nothing := fun p hp bytes t => by rw [save_apply, f.resolve_eq_error hp]
      deletes_nothing := fun p hp t => by rw [delete_apply, f.resolve_eq_error hp]
      saved := fun p bytes t t' place => resolve_of_save
      same := by
        intro p q a b ha hb
        obtain ⟨-, rfl⟩ := isInner_of_resolve ha
        obtain ⟨-, rfl⟩ := isInner_of_resolve hb
        exact join_inj (fun _ => isName_of_mem_names) fun _ => isName_of_mem_names
      cleaned := by
        intro p place h
        obtain ⟨hp, rfl⟩ := isInner_of_resolve h
        have hne := (hp.isBelow f.path).nonempty
        rw [f.resolve_of_isInner hp.clean, names_clean hne] }
  · exact {
      refuses := fun h => by rw [of?, inner, innerNames?_eq_none h]
      rootless := fun h hroot => by
        rw [of?, inner, innerNames?_of_isInner h]
        simp only [hroot]
      inside := fun h root hroot => by
        refine ⟨_, ?_, h.isBelow root⟩
        rw [of?, inner, innerNames?_of_isInner h]
        simp only [hroot] }

/-- Steps that say nothing are left out, and a name of three dots is a name. -/
example : (resolve ⟨.documents, "/srv/notes"⟩ "./a//.../b/").toOption = some "/srv/notes/a/.../b" := by decide

end Folder

end TypedStorage
