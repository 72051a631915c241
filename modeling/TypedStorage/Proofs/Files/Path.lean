/-
Paths and their names. Putting names behind a path adds them to the names of the path (`names_join`), so a path
that names were put behind tells which they were (`join_inj`).
-/
import TypedStorage.Files.Path

namespace TypedStorage

theorem Text.pieces_append_sep (sep : Char) (cs ds : List Char) :
    pieces sep (cs ++ sep :: ds) = pieces sep cs ++ pieces sep ds := by
  induction cs with
  | nil =>
    obtain ⟨p, ps, hp⟩ := List.exists_cons_of_ne_nil (pieces_ne_nil sep ds)
    simp [pieces, hp]
  | cons c cs ih =>
    obtain ⟨p, ps, hp⟩ := List.exists_cons_of_ne_nil (pieces_ne_nil sep cs)
    rw [List.cons_append, pieces, ih, hp, List.cons_append, pieces, hp]
    simp only
    split <;> rfl

theorem Text.pieces_of_not_mem {sep : Char} {cs : List Char} (h : sep ∉ cs) : pieces sep cs = [cs] := by
  induction cs with
  | nil => rfl
  | cons c cs ih =>
    have hc : c ≠ sep := fun e => h (e ▸ List.mem_cons_self)
    rw [pieces, ih fun hm => h (List.mem_cons_of_mem c hm)]
    simp [hc]

namespace Path

/-- A name that leads one step further. -/
structure IsName (name : String) : Prop where
  one : '/' ∉ name.toList
  nonempty : name ≠ ""
  no_dot : name ≠ "."

theorem isName_of_mem_names {s name : String} (h : name ∈ names s) : IsName name := by
  rw [names, List.mem_filter, decide_eq_true_eq] at h
  obtain ⟨hstep, hempty, hdot⟩ := h
  refine ⟨?_, hempty, hdot⟩
  obtain ⟨p, hp, rfl⟩ := List.mem_map.1 hstep
  rw [String.toList_ofList]
  exact Text.sep_not_mem_of_mem_pieces hp

theorem names_append_slash (s t : String) : names (s ++ "/" ++ t) = names s ++ names t := by
  have hsteps : steps (s ++ "/" ++ t) = steps s ++ steps t := by
    simp [steps, Text.pieces_append_sep]
  rw [names, hsteps, List.filter_append]
  rfl

theorem names_of_isName {name : String} (h : IsName name) : names name = [name] := by
  have hsteps : steps name = [name] := by simp [steps, Text.pieces_of_not_mem h.one]
  rw [names, hsteps]
  simp [h.nonempty, h.no_dot]

/-- One more name is the last, whether the path ended in a slash or not. -/
theorem names_push {name : String} (h : IsName name) (base : String) : names (push base name) = names base ++ [name] := by
  unfold push
  split
  · next hend =>
    rcases hend with rfl | hend
    · rw [String.empty_append, names_of_isName h]
      rfl
    · -- the slash at the end of the path is the one before the name
      obtain ⟨cs, hcs⟩ := List.getLast?_eq_some_iff.1 hend
      have hbase : base = String.ofList cs ++ "/" := by
        rw [← String.toList_inj, hcs]
        simp
      have hnone : names base = names (String.ofList cs) := by
        have := names_append_slash (String.ofList cs) ""
        rw [String.append_empty, ← hbase] at this
        rw [this, show names "" = [] by decide, List.append_nil]
      rw [hnone, hbase, names_append_slash, names_of_isName h]
  · rw [names_append_slash, names_of_isName h]

theorem names_join {ns : List String} (h : ∀ n ∈ ns, IsName n) (base : String) :
    names (join base ns) = names base ++ ns := by
  induction ns generalizing base with
  | nil => simp [join]
  | cons n ns ih =>
    show names (join (push base n) ns) = _
    rw [ih (fun m hm => h m (List.mem_cons_of_mem n hm)), names_push (h n List.mem_cons_self), List.append_assoc]
    rfl

/-- What is behind a path can be told from the whole. -/
theorem join_inj {ns ms : List String} (hn : ∀ n ∈ ns, IsName n) (hm : ∀ m ∈ ms, IsName m) {base : String} :
    join base ns = join base ms ↔ ns = ms := by
  refine ⟨fun h => ?_, fun h => h ▸ rfl⟩
  have hnames := congrArg names h
  rw [names_join hn, names_join hm] at hnames
  exact List.append_cancel_left hnames

end Path

end TypedStorage
