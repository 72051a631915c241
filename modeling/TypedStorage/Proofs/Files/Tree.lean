/-
What names meet on their way through a tree. They lead to one place whatever stands in the tree, and enter others
before it (`walk?`, `entered`). As long as none of these is a file, a search finds what is at the end or misses a
directory (`find_eq`), missing directories can be made, which changes nothing else (`makeDirectories_eq`), and one file
is saved or taken away (`save_eq`, `delete_eq`).
-/
import TypedStorage.Files.Tree
import TypedStorage.Proofs.Files.Path

namespace TypedStorage

open TypedStorage.Path (IsName)

/-- The bytes of a file. -/
def Node.bytes? : Node → Option (List UInt8)
  | .directory => none
  | .file bytes => some bytes

namespace FileTree

/-- The bytes of the file at a place. -/
def fileAt? (t : FileTree) (place : List String) : Option (List UInt8) := (t.node? place).bind Node.bytes?

/-- The places that names enter from a place, one for each step down. -/
def entered (place : List String) : List String → List (List String)
  | [] => []
  | name :: names =>
    if name = ".." then entered place.dropLast names
    else (place ++ [name]) :: entered (place ++ [name]) names

/-- A name that can be given to a file. -/
structure IsStorable (name : String) : Prop where
  short : isTooLong name = false
  readable : '\x00' ∉ name.toList

instance (name : String) : Decidable (IsStorable name) :=
  decidable_of_iff (isTooLong name = false ∧ '\x00' ∉ name.toList)
    ⟨fun ⟨hshort, hreadable⟩ => ⟨hshort, hreadable⟩, fun h => ⟨h.short, h.readable⟩⟩

/-- A tree and the same with some directories more, all of them at these places. -/
def Grown (places : List (List String)) (t t' : FileTree) : Prop :=
  ∀ place, t'.node? place = t.node? place ∨
    t.node? place = none ∧ t'.node? place = some .directory ∧ place ∈ places

/-- Names lead to a place, and no file is in the way. -/
structure Clear (t : FileTree) (names place : List String) : Prop where
  leads : walk? [] names = some place
  isName : ∀ n ∈ names, IsName n
  storable : ∀ n ∈ names, IsStorable n
  no_file : ∀ q ∈ entered [] names, t.fileAt? q = none

/-- Names lead to a directory and one more to a file in it, or to where one can be. -/
structure TakesFile (t : FileTree) (names : List String) (name : String) (place : List String) : Prop
    extends Clear t names place where
  last_isName : IsName name
  last_storable : IsStorable name
  last_down : name ≠ ".."
  not_entered : place ++ [name] ∉ entered [] names
  no_directory : t.node? (place ++ [name]) ≠ some .directory
  /-- A file there is reached. -/
  reached : t.fileAt? (place ++ [name]) ≠ none → ∀ q ∈ entered [] names, t.node? q = some .directory

/-- What is found where a file with these bytes is, or none. -/
def found : Option (List UInt8) → Except FileFault Node
  | some bytes => .ok (.file bytes)
  | none => .error .notFound

variable {t t' t'' : FileTree} {place goal names rest : List String} {name : String}

/-! ## Places -/

theorem walk?_append (place names rest : List String) :
    walk? place (names ++ rest) = (walk? place names).bind (walk? · rest) := by
  fun_induction walk? place names with
  | case1 => rfl
  | case2 names => simp [walk?]
  | case3 place names hne ih => simpa [walk?, hne] using ih
  | case4 place name names hname ih => simpa [walk?, hname] using ih

/-- Without two dots it goes down all the way. -/
theorem walk?_of_down (h : ".." ∉ names) (place : List String) : walk? place names = some (place ++ names) := by
  induction names generalizing place with
  | nil => simp [walk?]
  | cons name names ih =>
    simp only [List.mem_cons, not_or] at h
    rw [walk?, if_neg (Ne.symm h.1), ih h.2, List.append_assoc, List.singleton_append]

theorem entered_append (h : walk? place names = some goal) (rest : List String) :
    entered place (names ++ rest) = entered place names ++ entered goal rest := by
  fun_induction walk? place names with
  | case1 => cases h; rfl
  | case2 => cases h
  | case3 place names hne ih => simpa [entered] using ih h
  | case4 place name names hname ih => simpa [entered, hname] using ih h

theorem mem_entered_of_down (h : ".." ∉ names) {q : List String} :
    q ∈ entered place names ↔ ∃ ns, ns ≠ [] ∧ ns <+: names ∧ q = place ++ ns := by
  induction names generalizing place with
  | nil =>
    rw [entered]
    constructor
    · nofun
    · rintro ⟨ns, hne, hpre, -⟩
      exact absurd (List.prefix_nil.1 hpre) hne
  | cons name names ih =>
    simp only [List.mem_cons, not_or] at h
    rw [entered, if_neg (Ne.symm h.1), List.mem_cons, ih h.2]
    constructor
    · rintro (rfl | ⟨ns, -, hpre, rfl⟩)
      · exact ⟨[name], by simp, by simp, rfl⟩
      · exact ⟨name :: ns, by simp, List.cons_prefix_cons.2 ⟨rfl, hpre⟩, by simp⟩
    · rintro ⟨ns, hne, hpre, rfl⟩
      obtain ⟨n, ns, rfl⟩ := List.exists_cons_of_ne_nil hne
      obtain ⟨rfl, hns⟩ := List.cons_prefix_cons.1 hpre
      by_cases he : ns = []
      · exact .inl (by rw [he])
      · exact .inr ⟨ns, he, hns, by simp⟩

/-! ## Nodes -/

theorem lookup_filter_ne {β : Type} (l : List (List String × β)) (place other : List String) :
    (l.filter (·.1 ≠ place)).lookup other = if other = place then none else l.lookup other := by
  induction l with
  | nil => simp
  | cons e l ih =>
    obtain ⟨k, b⟩ := e
    by_cases hk : k = place
    · subst hk
      rw [List.filter_cons_of_neg (by simp), ih, List.lookup_cons]
      split
      · rfl
      · next ho => rw [beq_eq_false_iff_ne.2 ho]
    · rw [List.filter_cons_of_pos (by simpa using hk), List.lookup_cons, List.lookup_cons, ih]
      by_cases ho : other = k
      · subst ho
        simp [hk]
      · rw [beq_eq_false_iff_ne.2 ho]

theorem node?_erase (h : place ≠ []) (other : List String) :
    (t.erase place).node? other = if other = place then none else t.node? other := by
  rw [node?, node?]
  by_cases ho : other = []
  · subst ho
    rw [if_pos rfl, if_neg (Ne.symm h), if_pos rfl]
  · rw [if_neg ho, if_neg ho, erase, lookup_filter_ne]

theorem node?_put (h : place ≠ []) (n : Node) (other : List String) :
    (t.put place n).node? other = if other = place then some n else t.node? other := by
  rw [node?, node?]
  by_cases ho : other = []
  · subst ho
    rw [if_pos rfl, if_neg (Ne.symm h), if_pos rfl]
  · rw [if_neg ho, if_neg ho, put, List.lookup_cons, lookup_filter_ne]
    split
    · next hp => rw [beq_iff_eq.1 hp, if_pos rfl]
    · next hp => rw [if_neg (beq_eq_false_iff_ne.1 hp), if_neg (beq_eq_false_iff_ne.1 hp)]

theorem fileAt?_erase (h : place ≠ []) (other : List String) :
    (t.erase place).fileAt? other = if other = place then none else t.fileAt? other := by
  rw [fileAt?, node?_erase h]
  split <;> rfl

theorem fileAt?_put (h : place ≠ []) (n : Node) (other : List String) :
    (t.put place n).fileAt? other = if other = place then n.bytes? else t.fileAt? other := by
  rw [fileAt?, node?_put h]
  split <;> rfl

/-- At the top there is a directory. -/
theorem ne_nil_of_node? (h : t.node? place ≠ some .directory) : place ≠ [] := by
  rintro rfl
  exact h rfl

/-! ## More directories -/

namespace Grown

variable {places : List (List String)}

theorem refl (places : List (List String)) (t : FileTree) : Grown places t t := fun _ => .inl rfl

theorem mono {others : List (List String)} (h : Grown places t t') (hp : places ⊆ others) : Grown others t t' :=
  fun q => (h q).imp_right fun ⟨hnone, hdir, hq⟩ => ⟨hnone, hdir, hp hq⟩

theorem trans (h : Grown places t t') (h' : Grown places t' t'') : Grown places t t'' := by
  intro q
  rcases h' q with he' | ⟨hnone, hdir, hq⟩
  · rcases h q with he | ⟨hnone, hdir, hq⟩
    · exact .inl (he'.trans he)
    · exact .inr ⟨hnone, he'.trans hdir, hq⟩
  · rcases h q with he | ⟨-, hdir', -⟩
    · exact .inr ⟨he.symm.trans hnone, hdir, hq⟩
    · rw [hdir'] at hnone
      cases hnone

/-- One more, where nothing was. -/
theorem put (h : t.node? place = none) (hp : place ∈ places) : Grown places t (t.put place .directory) := by
  intro q
  rw [node?_put (ne_nil_of_node? (t := t) (by simp [h]))]
  by_cases hq : q = place
  · subst hq
    exact .inr ⟨h, if_pos rfl, hp⟩
  · exact .inl (if_neg hq)

theorem directory (h : Grown places t t') {q : List String} (hq : t.node? q = some .directory) :
    t'.node? q = some .directory := by
  rcases h q with he | ⟨hnone, -, -⟩
  · rw [he, hq]
  · rw [hnone] at hq
    cases hq

theorem node?_of_not_mem (h : Grown places t t') {q : List String} (hq : q ∉ places) : t'.node? q = t.node? q :=
  (h q).resolve_right fun h => hq h.2.2

/-- Files are left as they are. -/
theorem fileAt? (h : Grown places t t') (q : List String) : t'.fileAt? q = t.fileAt? q := by
  rw [FileTree.fileAt?, FileTree.fileAt?]
  rcases h q with he | ⟨hnone, hdir, -⟩
  · rw [he]
  · rw [hnone, hdir]
    rfl

end Grown

/-- One step down makes the directory that is entered, unless it is there. -/
theorem makeDirectoriesFrom_down (hup : name ≠ "..") (hshort : isTooLong name = false) :
    makeDirectoriesFrom place (name :: names) t = match t.node? (place ++ [name]) with
      | some (.file _) => (.error (if names = [] then .alreadyExists else .notADirectory), t)
      | some .directory => makeDirectoriesFrom (place ++ [name]) names t
      | none => makeDirectoriesFrom (place ++ [name]) names (t.put (place ++ [name]) .directory) := by
  rw [makeDirectoriesFrom, if_neg hup]
  dsimp only
  rw [if_neg (by simp [hshort])]
  show (match t.node? (place ++ [name]) with
    | some (.file _) => _
    | some .directory => _
    | none => _ : FileAccess Unit) t = _
  cases t.node? (place ++ [name]) with
  | none => rfl
  | some n => cases n <;> rfl

/-- Directories are made until there is one at each place that is entered. -/
theorem makeDirectoriesFrom_eq (hleads : walk? place names = some goal) (hshort : ∀ n ∈ names, isTooLong n = false)
    (hfile : ∀ q ∈ entered place names, t.fileAt? q = none) :
    ∃ t', makeDirectoriesFrom place names t = (.ok (), t') ∧ Grown (entered place names) t t' ∧
      ∀ q ∈ entered place names, t'.node? q = some .directory := by
  induction names generalizing place t with
  | nil => exact ⟨t, rfl, .refl _ t, by simp [entered]⟩
  | cons name names ih =>
    rw [List.forall_mem_cons] at hshort
    by_cases hup : name = ".."
    · subst hup
      rw [walk?, if_pos rfl] at hleads
      split at hleads
      · cases hleads
      · next hne =>
        rw [entered, if_pos rfl] at hfile ⊢
        obtain ⟨t', hrun, h⟩ := ih hleads hshort.2 hfile
        refine ⟨t', ?_, h⟩
        rw [makeDirectoriesFrom, if_pos rfl, if_neg hne]
        exact hrun
    · rw [walk?, if_neg hup] at hleads
      rw [entered, if_neg hup] at hfile ⊢
      rw [List.forall_mem_cons] at hfile
      -- what is entered first is a directory from now on
      obtain ⟨t₁, hstep, hgrown, hdir⟩ : ∃ t₁,
          makeDirectoriesFrom place (name :: names) t = makeDirectoriesFrom (place ++ [name]) names t₁ ∧
            Grown [place ++ [name]] t t₁ ∧ t₁.node? (place ++ [name]) = some .directory := by
        rw [makeDirectoriesFrom_down hup hshort.1]
        have hfile := hfile.1
        rw [fileAt?] at hfile
        cases hnode : t.node? (place ++ [name]) with
        | none => exact ⟨_, rfl, .put hnode (by simp), by rw [node?_put (by simp), if_pos rfl]⟩
        | some n =>
          cases n with
          | directory => exact ⟨t, rfl, .refl _ t, hnode⟩
          | file bytes =>
            rw [hnode] at hfile
            cases hfile
      obtain ⟨t', hrun, hgrown', hdirs⟩ := ih (t := t₁) hleads hshort.2 fun q hq => by
        rw [hgrown.fileAt?, hfile.2 q hq]
      exact ⟨t', hstep.trans hrun, (hgrown.mono (by simp)).trans (hgrown'.mono (List.subset_cons_self _ _)),
        List.forall_mem_cons.2 ⟨hgrown'.directory hdir, hdirs⟩⟩

theorem isUnreadable_eq_false (h : ∀ n ∈ names, IsStorable n) : isUnreadable names = false := by
  rw [isUnreadable, List.any_eq_false]
  intro n hn
  simpa using (h n hn).readable

theorem Clear.makeDirectories_eq (h : t.Clear names place) :
    ∃ t', makeDirectories names t = (.ok (), t') ∧ Grown (entered [] names) t t' ∧
      ∀ q ∈ entered [] names, t'.node? q = some .directory := by
  rw [makeDirectories, if_neg (by simp [isUnreadable_eq_false h.storable])]
  exact makeDirectoriesFrom_eq h.leads (fun n hn => (h.storable n hn).short) h.no_file

/-! ## A search -/

theorem findFrom_up (hne : place ≠ []) :
    t.findFrom place .directory (".." :: names) = t.findFrom place.dropLast .directory names := by
  rw [findFrom, if_neg (by decide), if_pos rfl, if_neg hne]

theorem findFrom_down (hname : IsName name) (hup : name ≠ "..") (hshort : isTooLong name = false) :
    t.findFrom place .directory (name :: names) = match t.node? (place ++ [name]) with
      | none => .error .notFound
      | some n => t.findFrom (place ++ [name]) n names := by
  rw [findFrom]
  exact (if_neg (not_or.2 ⟨hname.nonempty, hname.no_dot⟩)).trans ((if_neg hup).trans (if_neg (by simp [hshort])))

/-- Where no file is in the way, a search gets to its end, unless a directory is missing. -/
theorem findFrom_append (hleads : walk? place names = some goal) (hname : ∀ n ∈ names, IsName n)
    (hshort : ∀ n ∈ names, isTooLong n = false) (hfile : ∀ q ∈ entered place names, t.fileAt? q = none) :
    t.findFrom place .directory (names ++ rest) =
      if ∀ q ∈ entered place names, t.node? q = some .directory then t.findFrom goal .directory rest
      else .error .notFound := by
  induction names generalizing place with
  | nil =>
    cases hleads
    simp [entered]
  | cons name names ih =>
    rw [List.forall_mem_cons] at hname hshort
    by_cases hup : name = ".."
    · subst hup
      rw [walk?, if_pos rfl] at hleads
      split at hleads
      · cases hleads
      · next hne =>
        rw [entered, if_pos rfl] at hfile ⊢
        rw [List.cons_append, findFrom_up hne, ih hleads hname.2 hshort.2 hfile]
    · rw [walk?, if_neg hup] at hleads
      rw [entered, if_neg hup] at hfile ⊢
      rw [List.forall_mem_cons] at hfile
      rw [List.cons_append, findFrom_down hname.1 hup hshort.1]
      have hfirst := hfile.1
      rw [fileAt?] at hfirst
      cases hnode : t.node? (place ++ [name]) with
      | none => simp [hnode]
      | some n =>
        cases n with
        | directory => simp [hnode, ih hleads hname.2 hshort.2 hfile.2]
        | file bytes =>
          rw [hnode] at hfirst
          cases hfirst

namespace TakesFile

variable (h : t.TakesFile names name place)
include h

theorem walk?_eq : walk? [] (names ++ [name]) = some (place ++ [name]) := by
  rw [walk?_append, h.leads, Option.bind_some]
  exact walk?_of_down (by simpa using Ne.symm h.last_down) place

theorem readable : isUnreadable (names ++ [name]) = false :=
  isUnreadable_eq_false fun n hn => (List.mem_append.1 hn).elim (h.storable n) fun hn =>
    List.mem_singleton.1 hn ▸ h.last_storable

theorem node?_eq : t.node? (place ++ [name]) = (t.fileAt? (place ++ [name])).map .file := by
  rw [fileAt?]
  cases hnode : t.node? (place ++ [name]) with
  | none => rfl
  | some n =>
    cases n with
    | directory => exact absurd hnode h.no_directory
    | file bytes => rfl

/-- What is found at the end is the file that is there. -/
theorem find_eq : t.find (names ++ [name]) = found (t.fileAt? (place ++ [name])) := by
  rw [find, if_neg (by simp [h.readable]),
    findFrom_append h.leads h.isName (fun n hn => (h.storable n hn).short) h.no_file]
  split
  · rw [findFrom_down h.last_isName h.last_down h.last_storable.short, h.node?_eq]
    cases t.fileAt? (place ++ [name]) <;> rfl
  · next hmissing =>
    rw [Classical.not_not.1 fun hne => hmissing (h.reached hne)]
    rfl

end TakesFile

theorem changeAt_eq (h : walk? [] names = some place) (change : FileTree → List String → FileTree) :
    changeAt names change t = (.ok (), change t place) := by
  rw [changeAt, h]
  rfl

theorem write_apply (names : List String) (bytes : List UInt8) (t : FileTree) : write names bytes t =
    match t.find names with
    | .ok .directory => (.error .isADirectory, t)
    | .ok (.file _) | .error .notFound => changeAt names (fun t place => t.put place (.file bytes)) t
    | .error fault => (.error fault, t) := by
  show (match t.find names with
    | .ok .directory => _
    | .ok (.file _) | .error .notFound => _
    | .error fault => _ : FileAccess Unit) t = _
  rcases t.find names with (_ | _ | _ | _ | _ | _ | _) | _ | _ <;> rfl

theorem delete_apply (names : List String) (t : FileTree) : delete names t =
    match t.find names with
    | .ok .directory => (.error .isADirectory, t)
    | .ok (.file _) => changeAt names erase t
    | .error fault => (.error fault, t) := by
  show (match t.find names with
    | .ok .directory => _
    | .ok (.file _) => _
    | .error fault => _ : FileAccess Unit) t = _
  rcases t.find names with _ | _ | _ <;> rfl

/-- Once the directories are made, the file is written. -/
theorem save_of_makeDirectories {bytes : List UInt8} (h : makeDirectories names.dropLast t = (.ok (), t')) :
    save names bytes t = write names bytes t' := by
  show ExceptT.bindCont (fun _ => write names bytes) (makeDirectories names.dropLast t).1
    (makeDirectories names.dropLast t).2 = _
  rw [h]
  rfl

namespace TakesFile

/-- It takes one also when there are more directories, with all that lead there. -/
theorem grown (h : t.TakesFile names name place) (hgrown : Grown (entered [] names) t t')
    (hdirs : ∀ q ∈ entered [] names, t'.node? q = some .directory) : t'.TakesFile names name place where
  toClear := { h.toClear with no_file := fun q hq => (hgrown.fileAt? q).trans (h.no_file q hq) }
  last_isName := h.last_isName
  last_storable := h.last_storable
  last_down := h.last_down
  not_entered := h.not_entered
  no_directory := hgrown.node?_of_not_mem h.not_entered ▸ h.no_directory
  reached _ := hdirs

variable (h : t.TakesFile names name place)
include h

theorem write_eq (bytes : List UInt8) :
    write (names ++ [name]) bytes t = (.ok (), t.put (place ++ [name]) (.file bytes)) := by
  rw [write_apply, h.find_eq]
  cases t.fileAt? (place ++ [name]) <;> exact changeAt_eq h.walk?_eq _

/-- A file is saved once the directories that lead to it are made. -/
theorem save_eq (bytes : List UInt8) : ∃ t', Grown (entered [] names) t t' ∧
    (∀ q ∈ entered [] names, t'.node? q = some .directory) ∧
    save (names ++ [name]) bytes t = (.ok (), t'.put (place ++ [name]) (.file bytes)) := by
  obtain ⟨t', hmake, hgrown, hdirs⟩ := h.makeDirectories_eq
  refine ⟨t', hgrown, hdirs, ?_⟩
  rw [save_of_makeDirectories (by rwa [List.dropLast_concat])]
  exact (h.grown hgrown hdirs).write_eq bytes

/-- A file is taken away if there is one. -/
theorem delete_eq : delete (names ++ [name]) t = match t.fileAt? (place ++ [name]) with
    | some _ => (.ok (), t.erase (place ++ [name]))
    | none => (.error .notFound, t) := by
  rw [delete_apply, h.find_eq]
  cases t.fileAt? (place ++ [name]) with
  | none => rfl
  | some bytes => exact changeAt_eq h.walk?_eq _

end TakesFile

end FileTree

end TypedStorage
