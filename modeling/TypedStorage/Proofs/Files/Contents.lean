/-
A folder as a map from names to bytes (`run_asMap`). After any run of calls there is, where a path leads, what the last
call on any spelling of it has left: the bytes of a save, or nothing after a delete. No call changes another file.

What stands in the tree must not be in the way: no file where a directory is needed, no directory where a file is, and
no path of the folder below another. It stays so through every call (`ordinary_after`), even where the path of the
folder itself goes up again and leads through directories that are only made on the way.
-/
import TypedStorage.Proofs.Files.Confinement
import TypedStorage.Proofs.Files.Tree

namespace TypedStorage

open TypedStorage.Path (IsInner IsName names join)

/-- A call to a folder. -/
inductive FolderCall where
  | save (path : String) (bytes : List UInt8)
  | delete (path : String)
  | resolve (path : String)

namespace FolderCall

def path : FolderCall → String
  | save path _ | delete path | resolve path => path

/-- The tree after the call, whatever its answer. -/
def after (f : Folder) : FolderCall → FileTree → FileTree
  | save path bytes, t => (f.save path bytes t).2
  | delete path, t => (f.delete path t).2
  | resolve _, t => t

/-- The tree after some calls, one after the other; one that fails does not end the run. -/
def run (f : Folder) (calls : List FolderCall) (t : FileTree) : FileTree := calls.foldl (fun t c => c.after f t) t

/-- What a call is to leave where its path leads, bytes or nothing. -/
def left? : FolderCall → Option (Option (List UInt8))
  | save _ bytes => some (some bytes)
  | delete _ => some none
  | resolve _ => none

/-- The call leaves this at some names below the folder. -/
def Leaves (c : FolderCall) (ns : List String) (kept : Option (List UInt8)) : Prop :=
  IsInner c.path ∧ names c.path = ns ∧ c.left? = some kept

end FolderCall

namespace Folder

open FileTree (IsStorable Grown walk? entered)

/-- The names of the paths that are let through. -/
def Accepted (paths : List String) (ns : List String) : Prop := ∃ p ∈ paths, IsInner p ∧ names p = ns

/-- A tree in which nothing is in the way of the files of a folder. -/
structure Ordinary (f : Folder) (top : List String) (paths : List String) (t : FileTree) : Prop where
  /-- The path of the folder leads to its place, -/
  leads : walk? [] (names f.path) = some top
  /-- and the file system takes all names. -/
  storable_path : ∀ n ∈ names f.path, IsStorable n
  storable : ∀ ns, Accepted paths ns → ∀ n ∈ ns, IsStorable n
  /-- No file is to be where another needs a directory, -/
  apart : ∀ ns ms, Accepted paths ns → Accepted paths ms → ns <+: ms → ns = ms
  /-- nor on the way to the folder. -/
  outside : ∀ q ∈ entered [] (names f.path), ∀ ns, Accepted paths ns → q ≠ top ++ ns
  /-- There is none where a directory is needed, -/
  no_file : ∀ ns, Accepted paths ns → ∀ q ∈ entered [] (names f.path ++ ns.dropLast), t.fileAt? q = none
  /-- and no directory where a file is to be. -/
  no_directory : ∀ ns, Accepted paths ns → t.node? (top ++ ns) ≠ some .directory
  /-- What files there are can be reached. -/
  reached : ∀ ns, Accepted paths ns → t.fileAt? (top ++ ns) ≠ none →
    ∀ q ∈ entered [] (names f.path ++ ns.dropLast), t.node? q = some .directory

variable {f : Folder} {top ns ms : List String} {paths : List String} {t t' : FileTree} {p : String}

theorem Accepted.down (h : Accepted paths ns) : ".." ∉ ns := by
  obtain ⟨p, -, hin, rfl⟩ := h
  exact fun hup => ((hin.isBelow "").down ".." hup).2.2.1 rfl

theorem Accepted.down_dropLast (h : Accepted paths ns) : ".." ∉ ns.dropLast :=
  fun hup => h.down (List.dropLast_subset ns hup)

theorem Accepted.isName (h : Accepted paths ns) : ∀ n ∈ ns, IsName n := by
  obtain ⟨p, -, -, rfl⟩ := h
  exact fun n => Path.isName_of_mem_names

theorem Accepted.ne_nil (h : Accepted paths ns) : ns ≠ [] := by
  obtain ⟨p, -, hin, rfl⟩ := h
  exact (hin.isBelow "").nonempty

theorem Accepted.exists_last (h : Accepted paths ns) : ∃ dir name, ns = dir ++ [name] :=
  ⟨_, _, (List.dropLast_concat_getLast h.ne_nil).symm⟩

namespace Ordinary

/-- The directories that one file needs are not where another is to be. -/
theorem ne_of_mem_entered (h : f.Ordinary top paths t) (hns : Accepted paths ns) (hms : Accepted paths ms)
    {q : List String} (hq : q ∈ entered [] (names f.path ++ ns.dropLast)) : q ≠ top ++ ms := by
  rw [FileTree.entered_append h.leads, List.mem_append] at hq
  rcases hq with hq | hq
  · exact h.outside q hq ms hms
  · rw [FileTree.mem_entered_of_down hns.down_dropLast] at hq
    obtain ⟨ks, -, hpre, rfl⟩ := hq
    intro he
    obtain rfl := List.append_cancel_left he
    have hlt : ks.length < ns.length := by
      have := hpre.length_le
      have := List.length_pos_iff.2 hns.ne_nil
      simp only [List.length_dropLast] at *
      omega
    rw [h.apart ks ns hms hns (hpre.trans (List.dropLast_prefix ns))] at hlt
    exact Nat.lt_irrefl _ hlt

/-- Where a path leads there can be a file. -/
theorem takesFile (h : f.Ordinary top paths t) {dir : List String} {name : String}
    (hns : Accepted paths (dir ++ [name])) : t.TakesFile (names f.path ++ dir) name (top ++ dir) := by
  have hname := List.forall_mem_append.1 hns.isName
  have hstorable := List.forall_mem_append.1 (h.storable _ hns)
  have hdown := hns.down
  rw [List.mem_append, not_or] at hdown
  have hfile := h.no_file _ hns
  have hnot := fun hq => h.ne_of_mem_entered (q := top ++ (dir ++ [name])) hns hns hq rfl
  have hdir := h.no_directory _ hns
  have hreached := h.reached _ hns
  rw [List.dropLast_concat] at hfile hnot hreached
  rw [← List.append_assoc] at hnot hdir hreached
  exact {
    leads := by
      rw [FileTree.walk?_append, h.leads, Option.bind_some]
      exact FileTree.walk?_of_down hdown.1 top
    isName := List.forall_mem_append.2 ⟨fun n => Path.isName_of_mem_names, hname.1⟩
    storable := List.forall_mem_append.2 ⟨h.storable_path, hstorable.1⟩
    no_file := hfile
    last_isName := hname.2 name List.mem_cons_self
    last_storable := hstorable.2 name List.mem_cons_self
    last_down := fun he => hdown.2 (List.mem_singleton.2 he.symm)
    not_entered := hnot
    no_directory := hdir
    reached := hreached }

/-- More directories are not in the way where some file needs them. -/
theorem grown (h : f.Ordinary top paths t) (hns : Accepted paths ns)
    (hgrown : Grown (entered [] (names f.path ++ ns.dropLast)) t t') : f.Ordinary top paths t' :=
  { h with
    no_file := fun ms hms q hq => (hgrown.fileAt? q).trans (h.no_file ms hms q hq)
    no_directory := fun ms hms => by
      rw [hgrown.node?_of_not_mem fun hq => h.ne_of_mem_entered hns hms hq rfl]
      exact h.no_directory ms hms
    reached := fun ms hms hfile q hq => by
      rw [hgrown.fileAt?] at hfile
      exact hgrown.directory (h.reached ms hms hfile q hq) }

/-- Nor is a file, or none, where one is to be. -/
theorem changed (h : f.Ordinary top paths t) (hns : Accepted paths ns)
    (hother : ∀ q, q ≠ top ++ ns → t'.node? q = t.node? q) (hdir : t'.node? (top ++ ns) ≠ some .directory)
    (hreached : t'.fileAt? (top ++ ns) ≠ none →
      ∀ q ∈ entered [] (names f.path ++ ns.dropLast), t.node? q = some .directory) : f.Ordinary top paths t' := by
  have hfile : ∀ q, q ≠ top ++ ns → t'.fileAt? q = t.fileAt? q := fun q hq => by
    rw [FileTree.fileAt?, hother q hq, FileTree.fileAt?]
  have hentered : ∀ ms, Accepted paths ms → ∀ q ∈ entered [] (names f.path ++ ms.dropLast), t'.node? q = t.node? q :=
    fun ms hms q hq => hother q (h.ne_of_mem_entered hms hns hq)
  exact { h with
    no_file := fun ms hms q hq => (hfile q (h.ne_of_mem_entered hms hns hq)).trans (h.no_file ms hms q hq)
    no_directory := fun ms hms => by
      by_cases he : top ++ ms = top ++ ns
      · rwa [he]
      · rw [hother _ he]
        exact h.no_directory ms hms
    reached := fun ms hms hthere q hq => by
      rw [hentered ms hms q hq]
      by_cases he : top ++ ms = top ++ ns
      · obtain rfl := List.append_cancel_left he
        exact hreached hthere q hq
      · rw [hfile _ he] at hthere
        exact h.reached ms hms hthere q hq }

/-- What is found where a path leads is the file that is there. -/
theorem find_eq (h : f.Ordinary top paths t) (hns : Accepted paths ns) :
    t.find (names f.path ++ ns) = FileTree.found (t.fileAt? (top ++ ns)) := by
  obtain ⟨dir, name, rfl⟩ := hns.exists_last
  rw [← List.append_assoc, (h.takesFile hns).find_eq, List.append_assoc]

theorem treeSave_eq (h : f.Ordinary top paths t) (hns : Accepted paths ns) (bytes : List UInt8) :
    ∃ t', Grown (entered [] (names f.path ++ ns.dropLast)) t t' ∧
      (∀ q ∈ entered [] (names f.path ++ ns.dropLast), t'.node? q = some .directory) ∧
      FileTree.save (names f.path ++ ns) bytes t = (.ok (), t'.put (top ++ ns) (.file bytes)) := by
  obtain ⟨dir, name, rfl⟩ := hns.exists_last
  rw [List.dropLast_concat, ← List.append_assoc, ← List.append_assoc]
  exact (h.takesFile hns).save_eq bytes

theorem treeDelete_eq (h : f.Ordinary top paths t) (hns : Accepted paths ns) :
    FileTree.delete (names f.path ++ ns) t = match t.fileAt? (top ++ ns) with
      | some _ => (.ok (), t.erase (top ++ ns))
      | none => (.error .notFound, t) := by
  obtain ⟨dir, name, rfl⟩ := hns.exists_last
  rw [← List.append_assoc, ← List.append_assoc]
  exact (h.takesFile hns).delete_eq

/-- A folder that holds nothing yet is in an ordinary tree, if its path goes down through no file. -/
theorem of_fresh (hdown : ".." ∉ names f.path) (hpath : ∀ n ∈ names f.path, IsStorable n)
    (hstorable : ∀ ns, Accepted paths ns → ∀ n ∈ ns, IsStorable n)
    (hapart : ∀ ns ms, Accepted paths ns → Accepted paths ms → ns <+: ms → ns = ms)
    (hfile : ∀ q, q <+: names f.path → t.fileAt? q = none)
    (hfresh : ∀ ns, ns ≠ [] → t.node? (names f.path ++ ns) = none) :
    f.Ordinary (names f.path) paths t := by
  have hleads : walk? [] (names f.path) = some (names f.path) := FileTree.walk?_of_down hdown []
  have hnone : ∀ ns, ns ≠ [] → t.fileAt? (names f.path ++ ns) = none := fun ns hne => by
    rw [FileTree.fileAt?, hfresh ns hne, Option.bind_none]
  exact {
    leads := hleads
    storable_path := hpath
    storable := hstorable
    apart := hapart
    outside := by
      intro q hq ns hns he
      obtain ⟨ks, -, hpre, rfl⟩ := (FileTree.mem_entered_of_down hdown).1 hq
      have hlength := hpre.length_le
      rw [he, List.length_append] at hlength
      have := List.length_pos_iff.2 hns.ne_nil
      omega
    no_file := by
      intro ns hns q hq
      rw [FileTree.entered_append hleads, List.mem_append] at hq
      rcases hq with hq | hq
      · obtain ⟨ks, -, hpre, rfl⟩ := (FileTree.mem_entered_of_down hdown).1 hq
        exact hfile _ hpre
      · obtain ⟨ks, hne, -, rfl⟩ := (FileTree.mem_entered_of_down hns.down_dropLast).1 hq
        exact hnone ks hne
    no_directory := fun ns hns => by simp [hfresh ns hns.ne_nil]
    reached := fun ns hns hthere => absurd (hnone ns hns.ne_nil) hthere }

/-! ### One save or delete -/

/-- A save leaves its bytes where it says, and all other files as they are. -/
theorem save_eq (h : f.Ordinary top paths t) (hp : p ∈ paths) (hin : IsInner p) (bytes : List UInt8) :
    ∃ t', f.save p bytes t = (.ok (join f.path (names p)), t') ∧ f.Ordinary top paths t' ∧
      ∀ q, t'.fileAt? q = if q = top ++ names p then some bytes else t.fileAt? q := by
  have hns : Accepted paths (names p) := ⟨p, hp, hin, rfl⟩
  have hne : top ++ names p ≠ [] := List.append_ne_nil_of_right_ne_nil top hns.ne_nil
  obtain ⟨t₁, hgrown, hdirs, hsave⟩ := h.treeSave_eq hns bytes
  refine ⟨t₁.put (top ++ names p) (.file bytes), ?_, ?_, fun q => ?_⟩
  · rw [save_apply, f.resolve_of_isInner hin]
    dsimp only
    rw [Path.names_join hns.isName, hsave]
    rfl
  · refine (h.grown hns hgrown).changed hns (fun q hq => ?_) ?_ fun _ => hdirs
    · rw [FileTree.node?_put hne, if_neg hq]
    · simp [FileTree.node?_put hne]
  · rw [FileTree.fileAt?_put hne, hgrown.fileAt?]
    rfl

/-- A delete takes away the file that is there, -/
theorem delete_eq_ok (h : f.Ordinary top paths t) (hp : p ∈ paths) (hin : IsInner p) {bytes : List UInt8}
    (hthere : t.fileAt? (top ++ names p) = some bytes) :
    ∃ t', f.delete p t = (.ok (), t') ∧ f.Ordinary top paths t' ∧
      ∀ q, t'.fileAt? q = if q = top ++ names p then none else t.fileAt? q := by
  have hns : Accepted paths (names p) := ⟨p, hp, hin, rfl⟩
  have hne : top ++ names p ≠ [] := List.append_ne_nil_of_right_ne_nil top hns.ne_nil
  refine ⟨t.erase (top ++ names p), ?_, ?_, FileTree.fileAt?_erase hne⟩
  · rw [delete_apply, f.resolve_of_isInner hin]
    dsimp only
    rw [Path.names_join hns.isName, h.treeDelete_eq hns, hthere]
    rfl
  · refine h.changed hns (fun q hq => ?_) ?_ fun hgone => absurd ?_ hgone
    · rw [FileTree.node?_erase hne, if_neg hq]
    · simp [FileTree.node?_erase hne]
    · rw [FileTree.fileAt?_erase hne, if_pos rfl]

/-- and says so if there is none. -/
theorem delete_eq_notFound (h : f.Ordinary top paths t) (hp : p ∈ paths) (hin : IsInner p)
    (hgone : t.fileAt? (top ++ names p) = none) :
    f.delete p t = (.error (.notFound (join f.path (names p))), t) := by
  have hns : Accepted paths (names p) := ⟨p, hp, hin, rfl⟩
  rw [delete_apply, f.resolve_of_isInner hin]
  dsimp only
  rw [Path.names_join hns.isName, h.treeDelete_eq hns, hgone]
  rfl

end Ordinary

end Folder

namespace FolderCall

open Folder (Ordinary Accepted)

variable {f : Folder} {top ns : List String} {paths : List String} {t : FileTree} {c : FolderCall}
  {calls : List FolderCall}

/-! ### One call -/

theorem after_of_refused (hc : ¬IsInner c.path) : c.after f t = t := by
  cases c with
  | save p bytes => rw [after, Folder.save_apply, f.resolve_eq_error (p := p) hc]
  | delete p => rw [after, Folder.delete_apply, f.resolve_eq_error (p := p) hc]
  | resolve p => rfl

/-- A call changes at most the file where its path leads, and then nothing is in the way of the next. -/
theorem after_of_isInner (h : f.Ordinary top paths t) (hc : c.path ∈ paths) (hin : IsInner c.path) :
    f.Ordinary top paths (c.after f t) ∧ ∀ q, (c.after f t).fileAt? q = match c.left? with
      | some kept => if q = top ++ names c.path then kept else t.fileAt? q
      | none => t.fileAt? q := by
  cases c with
  | save p bytes =>
    obtain ⟨t', hsave, h', hfile⟩ := h.save_eq (p := p) hc hin bytes
    rw [after, hsave]
    exact ⟨h', hfile⟩
  | delete p =>
    cases hthere : t.fileAt? (top ++ names p) with
    | some bytes =>
      obtain ⟨t', hdelete, h', hfile⟩ := h.delete_eq_ok (p := p) hc hin hthere
      rw [after, hdelete]
      exact ⟨h', hfile⟩
    | none =>
      rw [after, h.delete_eq_notFound (p := p) hc hin hthere]
      refine ⟨h, fun q => ?_⟩
      show t.fileAt? q = if q = top ++ names p then none else t.fileAt? q
      by_cases hq : q = top ++ names p
      · rw [if_pos hq, hq, hthere]
      · rw [if_neg hq]
  | resolve p => exact ⟨h, fun q => rfl⟩

theorem ordinary_after (h : f.Ordinary top paths t) (hc : c.path ∈ paths) : f.Ordinary top paths (c.after f t) := by
  by_cases hin : IsInner c.path
  · exact (after_of_isInner h hc hin).1
  · rwa [after_of_refused hin]

/-- A call leaves what it is to leave, -/
theorem fileAt?_of_leaves (h : f.Ordinary top paths t) (hc : c.path ∈ paths) {kept : Option (List UInt8)}
    (hleaves : c.Leaves ns kept) : (c.after f t).fileAt? (top ++ ns) = kept := by
  obtain ⟨hin, rfl, hkept⟩ := hleaves
  rw [(after_of_isInner h hc hin).2, hkept]
  exact if_pos rfl

/-- and no other file changes. -/
theorem fileAt?_of_not_leaves (h : f.Ordinary top paths t) (hc : c.path ∈ paths) {q : List String}
    (hnot : ∀ ns kept, c.Leaves ns kept → q ≠ top ++ ns) : (c.after f t).fileAt? q = t.fileAt? q := by
  by_cases hin : IsInner c.path
  · rw [(after_of_isInner h hc hin).2]
    cases hleft : c.left? with
    | none => rfl
    | some kept => exact if_neg (hnot _ kept ⟨hin, rfl, hleft⟩)
  · rw [after_of_refused hin]

/-! ### Runs -/

theorem run_append (before after : List FolderCall) (t : FileTree) :
    run f (before ++ after) t = run f after (run f before t) := List.foldl_append

theorem ordinary_run (h : f.Ordinary top paths t) (hcalls : ∀ c ∈ calls, c.path ∈ paths) :
    f.Ordinary top paths (run f calls t) := by
  induction calls generalizing t with
  | nil => exact h
  | cons c calls ih =>
    rw [List.forall_mem_cons] at hcalls
    exact ih (ordinary_after h hcalls.1) hcalls.2

theorem fileAt?_run_of_not_leaves (h : f.Ordinary top paths t) (hcalls : ∀ c ∈ calls, c.path ∈ paths) {q : List String}
    (hnot : ∀ c ∈ calls, ∀ ns kept, c.Leaves ns kept → q ≠ top ++ ns) : (run f calls t).fileAt? q = t.fileAt? q := by
  induction calls generalizing t with
  | nil => rfl
  | cons c calls ih =>
    rw [List.forall_mem_cons] at hcalls hnot
    exact (ih (ordinary_after h hcalls.1) hcalls.2 hnot.2).trans (fileAt?_of_not_leaves h hcalls.1 hnot.1)

/-- Where a path leads there is what the last call has left. -/
theorem fileAt?_run_of_leaves (h : f.Ordinary top paths t) {before after : List FolderCall}
    (hcalls : ∀ c' ∈ before ++ c :: after, c'.path ∈ paths) {kept : Option (List UInt8)} (hleaves : c.Leaves ns kept)
    (hafter : ∀ c' ∈ after, ∀ kept', ¬c'.Leaves ns kept') :
    (run f (before ++ c :: after) t).fileAt? (top ++ ns) = kept := by
  rw [List.forall_mem_append, List.forall_mem_cons] at hcalls
  obtain ⟨hbefore, hc, hcalls⟩ := hcalls
  have hrun := ordinary_run h hbefore
  rw [run_append]
  refine (fileAt?_run_of_not_leaves (ordinary_after hrun hc) hcalls ?_).trans (fileAt?_of_leaves hrun hc hleaves)
  intro c' hc' ms kept' hleaves' he
  obtain rfl := List.append_cancel_left he
  exact hafter c' hc' kept' hleaves'

/-- What a folder holds and answers after some calls. -/
structure AsMap (f : Folder) (top : List String) (paths : List String) (t : FileTree) (calls : List FolderCall) :
    Prop where
  /-- Where a path leads there is what the last call on any spelling of it has left: the bytes of a save, or nothing. -/
  written : ∀ before c after ns kept, calls = before ++ c :: after → c.Leaves ns kept →
    (∀ c' ∈ after, ∀ kept', ¬c'.Leaves ns kept') → (run f calls t).fileAt? (top ++ ns) = kept
  /-- Anywhere else, inside the folder and outside, each file is as it was. -/
  untouched : ∀ q, (∀ c ∈ calls, ∀ ns kept, c.Leaves ns kept → q ≠ top ++ ns) →
    (run f calls t).fileAt? q = t.fileAt? q
  /-- This is what is found at the place that a path resolves to. -/
  found : ∀ p ∈ paths, ∀ place, f.resolve p = .ok place →
    (run f calls t).find (names place) = FileTree.found ((run f calls t).fileAt? (top ++ names p))
  /-- A save succeeds, says what a resolve says, and leaves its bytes there and all other files as they are. -/
  saves : ∀ p ∈ paths, ∀ place, f.resolve p = .ok place → ∀ bytes, ∃ t',
    f.save p bytes (run f calls t) = (.ok place, t') ∧
      ∀ q, t'.fileAt? q = if q = top ++ names p then some bytes else (run f calls t).fileAt? q
  /-- A delete succeeds where there is a file, and leaves nothing there and all other files as they are. -/
  deletes : ∀ p ∈ paths, ∀ place, f.resolve p = .ok place → (run f calls t).fileAt? (top ++ names p) ≠ none →
    ∃ t', f.delete p (run f calls t) = (.ok (), t') ∧
      ∀ q, t'.fileAt? q = if q = top ++ names p then none else (run f calls t).fileAt? q
  /-- Where there is none, it says so and does nothing. -/
  misses : ∀ p ∈ paths, ∀ place, f.resolve p = .ok place → (run f calls t).fileAt? (top ++ names p) = none →
    f.delete p (run f calls t) = (.error (.notFound place), run f calls t)
  /-- A path that does not resolve is refused, and nothing is done. -/
  refused : ∀ p, (∀ place, f.resolve p ≠ .ok place) → f.resolve p = .error (.invalidPath p) ∧
    (∀ bytes, f.save p bytes (run f calls t) = (.error (.invalidPath p), run f calls t)) ∧
    f.delete p (run f calls t) = (.error (.invalidPath p), run f calls t)

/-- **A folder is a map from names to bytes**, after any run of calls in an ordinary tree. -/
theorem run_asMap (h : f.Ordinary top paths t) (hcalls : ∀ c ∈ calls, c.path ∈ paths) :
    AsMap f top paths t calls := by
  have hrun := ordinary_run h hcalls
  exact {
    written := by
      rintro before c after ns kept rfl hleaves hafter
      exact fileAt?_run_of_leaves h hcalls hleaves hafter
    untouched := fun q hnot => fileAt?_run_of_not_leaves h hcalls hnot
    found := by
      intro p hp place hplace
      obtain ⟨hin, rfl⟩ := Folder.isInner_of_resolve hplace
      have hns : Accepted paths (names p) := ⟨p, hp, hin, rfl⟩
      rw [Path.names_join hns.isName]
      exact hrun.find_eq hns
    saves := by
      intro p hp place hplace bytes
      obtain ⟨hin, rfl⟩ := Folder.isInner_of_resolve hplace
      obtain ⟨t', hsave, -, hfile⟩ := hrun.save_eq hp hin bytes
      exact ⟨t', hsave, hfile⟩
    deletes := by
      intro p hp place hplace hthere
      obtain ⟨hin, rfl⟩ := Folder.isInner_of_resolve hplace
      obtain ⟨bytes, hthere⟩ := Option.ne_none_iff_exists'.1 hthere
      obtain ⟨t', hdelete, -, hfile⟩ := hrun.delete_eq_ok hp hin hthere
      exact ⟨t', hdelete, hfile⟩
    misses := by
      intro p hp place hplace hgone
      obtain ⟨hin, rfl⟩ := Folder.isInner_of_resolve hplace
      exact hrun.delete_eq_notFound hp hin hgone
    refused := by
      intro p hp
      have hin : ¬IsInner p := fun hin => hp _ (f.resolve_of_isInner hin)
      refine ⟨f.resolve_eq_error hin, fun bytes => ?_, ?_⟩
      · rw [Folder.save_apply, f.resolve_eq_error hin]
      · rw [Folder.delete_apply, f.resolve_eq_error hin] }

/-- Two spellings of one path, a path through a directory that is made on the way, and one that is refused. -/
theorem run_asMap_spellings :
    let f : Folder := ⟨.documents, "/srv/notes"⟩
    let t : FileTree := ⟨[(["srv"], .directory), (["srv", "x"], .file [7])]⟩
    let calls := [save "a.txt" [1], save "sub//b.txt" [2], delete "./a.txt", save "../x" [3], save "./a.txt" [4]]
    AsMap f ["srv", "notes"] ["a.txt", "./a.txt", "sub//b.txt", "../x"] t calls ∧
      (run f calls t).fileAt? ["srv", "notes", "a.txt"] = some [4] ∧
      (run f calls t).fileAt? ["srv", "notes", "sub", "b.txt"] = some [2] ∧
      (run f calls t).fileAt? ["srv", "x"] = some [7] := by
  intro f t calls
  have hpath : names f.path = ["srv", "notes"] := by decide
  have hinner : ∀ p ∈ ["a.txt", "./a.txt", "sub//b.txt"], IsInner p := by
    simp only [Path.isInner_iff]
    decide
  have haccepted : ∀ ns, Accepted ["a.txt", "./a.txt", "sub//b.txt", "../x"] ns →
      ns = ["a.txt"] ∨ ns = ["sub", "b.txt"] := by
    rintro ns ⟨p, hp, hin, rfl⟩
    simp only [List.mem_cons, List.not_mem_nil, or_false] at hp
    rcases hp with rfl | rfl | rfl | rfl
    · exact .inl (by decide)
    · exact .inl (by decide)
    · exact .inr (by decide)
    · exact absurd hin.not_up (by decide)
  have hordinary : f.Ordinary ["srv", "notes"] ["a.txt", "./a.txt", "sub//b.txt", "../x"] t := by
    rw [← hpath]
    refine .of_fresh (by decide) (by decide) (fun ns hns => ?_) (fun ns ms hns hms hpre => ?_) (fun q hpre => ?_)
      fun ns hne => ?_
    · rcases haccepted ns hns with rfl | rfl <;> decide
    · rcases haccepted ns hns with rfl | rfl <;> rcases haccepted ms hms with rfl | rfl
      · rfl
      · exact absurd hpre (by decide)
      · exact absurd hpre (by decide)
      · rfl
    · simp only [hpath, List.prefix_cons_iff, List.prefix_nil] at hpre
      rcases hpre with rfl | ⟨_, rfl, rfl | ⟨_, rfl, rfl⟩⟩ <;> rfl
    · rw [hpath]
      obtain ⟨n, ns, rfl⟩ := List.exists_cons_of_ne_nil hne
      rfl
  have h : AsMap f ["srv", "notes"] ["a.txt", "./a.txt", "sub//b.txt", "../x"] t calls :=
    run_asMap hordinary (by decide)
  refine ⟨h, ?_, ?_, ?_⟩
  · exact h.written (calls.take 4) (save "./a.txt" [4]) [] ["a.txt"] (some [4]) rfl
      ⟨hinner "./a.txt" (by simp), by decide, rfl⟩ (by simp)
  · have hother : ∀ c ∈ calls.drop 2, names c.path ≠ ["sub", "b.txt"] := by decide
    exact h.written (calls.take 1) (save "sub//b.txt" [2]) (calls.drop 2) ["sub", "b.txt"] (some [2]) rfl
      ⟨hinner "sub//b.txt" (by simp), by decide, rfl⟩ fun c hc kept hleaves => hother c hc hleaves.2.1
  · refine (h.untouched ["srv", "x"] fun c hc ns kept hleaves he => ?_).trans rfl
    simp at he

end FolderCall

end TypedStorage
