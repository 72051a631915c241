/-
The JSON text of settings. Their readers take the documents of the sections for the sections, and the document of
settings for the settings (`Settings.takes_document`). The kind of preferences stands among their fields, wherever it
is, and what is left without it is read by the kind.
-/
import TypedStorage.Proofs.Json.Typed
import TypedStorage.Settings.Json

namespace TypedStorage

open Json Dialect

/-! ## Choices and sections -/

theorem takes_jsonChoice {α : Type} {alternatives : List (String × α)} {name : String} {x : α}
    (h : alternatives.lookup name = some x) : Takes (Dialect.json.choice? alternatives) (.ofString name) x True :=
  takes_among h

theorem takes_keptChoice {α : Type} {alternatives : List (String × α)} {name : String} {x : α}
    (h : alternatives.lookup name = some x) : Takes (kept.choice? alternatives) (.ofString name) x True := by
  intro budget j hj y
  have hsame : kept.choice? alternatives budget (Source.ofJson j) = Choice.among alternatives budget (Source.ofJson j) := by
    cases hj
    rfl
  rw [hsame]
  exact takes_among h hj y

theorem section?_eq_orNull {α : Type} (f : Fields) (name : String) (read : Reader α) {s : Source}
    (h : f.found.lookup name = some s) : section? f name read = orNull read f.budget s := by
  rw [section?, h]
  cases s <;> rfl

/-- Reading goes on with a section. -/
theorem section_bind {α β : Type} {f : Fields} {pairs : List (String × Document)} {part : String → Json}
    (h : f.Gives pairs part) (name : String) (o : Option α) {doc : α → Document}
    (hd : (name, .ofOption (o.map doc)) ∈ pairs) {read : Reader α} (hread : ∀ x, Takes read (doc x) x True)
    (hne : ∀ x, (doc x).tree ≠ .null) {next : Option α → Option β} {y : β} :
    (section? f name read).bind next = some y ↔ (part name).depth ≤ f.budget ∧ next o = some y := by
  have ho : Takes (orNull read) (.ofOption (o.map doc)) o True := (takes_orNull hread hne).congr (by simp)
  rw [section?_eq_orNull f name read (h.lookup hd), ho.bind_eq_some_iff (h.arranges _ hd), true_and]

/-! ## Sections -/

theorem DatabaseSettings.takes_document (d : DatabaseSettings) : Takes Dialect.json.database? d.document d True := by
  obtain ⟨path, encryptionKey⟩ := d
  have hkey : Takes Readable.read? _ encryptionKey True :=
    (takes_ofOption takes_string fun _ => Json.noConfusion).congr (by simp)
  refine takes_record (fun _ _ => rfl) rfl (by simp) fun f part h y => ?_
  simp only [Option.bind_eq_bind, h.required_bind "path" (by simp) (takes_string path),
    h.optional_bind "encryption_key" (by simp) hkey, Option.pure_def, Option.some.injEq, eq_comm (b := y),
    List.forall_mem_cons, true_and]
  tauto

theorem FilesSettings.takes_document (s : FilesSettings) : Takes Dialect.json.files? s.document s True := by
  obtain ⟨base, folderName, root⟩ := s
  have hbase : Takes (Dialect.json.choice? directories) (.ofString base.name) base True :=
    takes_jsonChoice (by cases base <;> rfl)
  have hroot : Takes Readable.read? _ root True := (takes_ofOption takes_string fun _ => Json.noConfusion).congr (by simp)
  refine takes_record (fun _ _ => rfl) rfl (by simp) fun f part h y => ?_
  simp only [Option.bind_eq_bind, h.read_bind "base" (by simp) hbase,
    h.required_bind "folder_name" (by simp) (takes_string folderName), h.optional_bind "root" (by simp) hroot,
    Option.pure_def, Option.some.injEq, eq_comm (b := y), List.forall_mem_cons, true_and]
  tauto

theorem SyncMode.takes_document (m : SyncMode) : Takes Dialect.json.sync? m.document m True := by
  have hmode : Takes (Dialect.json.choice? [("none", SyncMode.none)]) (.ofString m.name) m True :=
    takes_jsonChoice (by cases m; rfl)
  refine takes_record (fun _ _ => rfl) rfl (by simp) fun f part h y => ?_
  simp only [h.lookup (List.mem_singleton_self _), hmode (h.arranges _ (List.mem_singleton_self _)),
    List.forall_mem_singleton]

/-! ## Preferences -/

/-- An arranged record with a kind: the kind is found once, and the other members are those of the record without it. -/
theorem exists_without_kind {kind : String} {rest : List (String × Document)}
    (hn : ("kind" :: rest.map Prod.fst).Nodup) {j : Json}
    (h : j.Arranges (Document.ofPairs (("kind", .ofString kind) :: rest)).tree) :
    ∃ members others, j = .object members ∧
      (Source.ofMembers members).filter (fun p => p.1 = some "kind") = [(some "kind", .string (some kind))] ∧
      (Source.ofMembers members).filter (fun p => p.1 ≠ some "kind") = Source.ofMembers others ∧
      (Json.object others).Arranges (Document.ofPairs rest).tree ∧
      ∀ n, membersDepth members ≤ n ↔ membersDepth others ≤ n := by
  obtain ⟨hkind, hrest⟩ := List.nodup_cons.1 hn
  obtain ⟨members, pairs, rfl, hperm, hmembers⟩ := (@arranges_ofPairs_iff (("kind", .ofString kind) :: rest) hn j).1 h
  have hnames : ∀ q ∈ rest, q.1 ≠ "kind" := fun q hq he => hkind (he ▸ List.mem_map_of_mem hq)
  have hnone : (rest.filter fun q => q.1 = "kind") = [] := List.filter_eq_nil_iff.2 fun q hq => by simpa using hnames q hq
  have hall : (rest.filter fun q => q.1 ≠ "kind") = rest := List.filter_eq_self.2 fun q hq => by simpa using hnames q hq
  have hfirst : (pairs.filter fun q => q.1 = "kind") = [("kind", .ofString kind)] := by
    have hp := hperm.filter fun q => q.1 = "kind"
    rwa [List.filter_cons_of_pos (by simp), hnone, List.perm_singleton] at hp
  have hothers : (pairs.filter fun q => q.1 ≠ "kind").Perm rest := by
    have hp := hperm.filter fun q => q.1 ≠ "kind"
    rwa [List.filter_cons_of_neg (by simp), hall] at hp
  -- members have the names of their pairs, so they are told apart in the same way
  have hmembersFirst := List.rel_filter (p := fun m : String × Json => m.1 = "kind") (q := fun q => q.1 = "kind")
    (fun _ _ hm => by simp [hm.1]) hmembers
  have hmembersOthers := List.rel_filter (p := fun m : String × Json => m.1 ≠ "kind") (q := fun q => q.1 ≠ "kind")
    (fun _ _ hm => by simp [hm.1]) hmembers
  rw [hfirst] at hmembersFirst
  obtain ⟨m, _, ⟨hname, harr⟩, hnil, hmember⟩ := List.forall₂_cons_right_iff.1 hmembersFirst
  cases hnil
  obtain ⟨name, j⟩ := m
  obtain rfl : name = "kind" := hname
  cases harr
  refine ⟨members, members.filter (·.1 ≠ "kind"), rfl, ?_, ?_, ?_, fun n => ?_⟩
  · rw [ofMembers_eq_map, List.filter_map]
    simp only [Function.comp_def, Option.some.injEq, hmember]
    rfl
  · rw [ofMembers_eq_map, ofMembers_eq_map, List.filter_map]
    simp only [Function.comp_def, ne_eq, Option.some.injEq]
  · exact (arranges_ofPairs_iff hrest).2 ⟨_, _, rfl, hothers, hmembersOthers⟩
  · rw [membersDepth_le_iff, membersDepth_le_iff]
    refine ⟨fun h m hm => h m (List.mem_of_mem_filter hm), fun h m hm => ?_⟩
    by_cases hk : m.1 = "kind"
    · have hm' : m ∈ members.filter fun m => m.1 = "kind" := List.mem_filter.2 ⟨hm, by simpa using hk⟩
      rw [hmember, List.mem_singleton] at hm'
      rw [hm']
      exact Nat.zero_le n
    · exact h m (List.mem_filter.2 ⟨hm, by simpa using hk⟩)

/-- Preferences are read by their kind. -/
theorem takes_kind {kind : String} {rest : List (String × Document)} (hn : ("kind" :: rest.map Prod.fst).Nodup)
    {p : PreferencesSettings} (h : Takes (kept.preferencesOf? kind) (.ofPairs rest) p True) :
    Takes preferences? (.ofPairs (("kind", .ofString kind) :: rest)) p True := by
  intro budget j hj y
  have hjson := @json?_of_arranges j _ budget hj (Document.ofPairs _).ordered
  obtain ⟨members, others, rfl, hfirst, hothers, harr, hdepth⟩ := exists_without_kind hn hj
  have hd : (Json.object members).depth ≤ budget ↔ (Json.object others).depth ≤ budget := by
    cases budget with
    | zero => simp [depth]
    | succ budget => rw [depth, depth, Nat.add_le_add_iff_right, Nat.add_le_add_iff_right, hdepth]
  unfold preferences?
  simp only [Source.ofJson, Option.bind_eq_bind, hfirst, hothers] at hjson ⊢
  by_cases hbudget : (Json.object members).depth ≤ budget
  · rw [(hjson _).2 ⟨rfl, hbudget⟩, Option.bind_some, hd]
    exact h harr y
  · have hnone : Source.json? budget (.object (Source.ofMembers members)) = none :=
      Option.eq_none_iff_forall_ne_some.2 fun y hy => hbudget ((hjson y).1 hy).2
    rw [hnone]
    simp [hbudget]

theorem PreferencesSettings.takes_document (p : PreferencesSettings) : Takes preferences? p.document p True := by
  cases p with
  | namespaced ns url =>
    refine takes_kind (by simp) (takes_record (fun _ _ => rfl) rfl (by simp) fun f part h y => ?_)
    simp only [Option.bind_eq_bind, h.required_bind "namespace" (by simp) (takes_string ns),
      h.required_bind "redis_url" (by simp) (takes_string url), Option.pure_def, Option.some.injEq, eq_comm (b := y),
      List.forall_mem_cons, true_and]
    tauto
  | secure serviceId accessGroup accessibility =>
    have hgroup : Takes Readable.read? _ accessGroup True :=
      (takes_ofOption takes_string fun _ => Json.noConfusion).congr (by simp)
    have haccess : Takes (kept.choice? accessibilities) (.ofString accessibility.keyword) accessibility True :=
      takes_keptChoice (by cases accessibility <;> rfl)
    refine takes_kind (by simp) (takes_record (fun _ _ => rfl) rfl (by simp) fun f part h y => ?_)
    have hmem : ("accessibility", Document.ofString accessibility.keyword) ∈ [
        ("service_id", Document.ofString serviceId), ("access_group", .ofOption (accessGroup.map .ofString)),
        ("accessibility", .ofString accessibility.keyword)] := by simp
    simp only [Option.bind_eq_bind, h.lookup hmem, haccess.bind_eq_some_iff (h.arranges _ hmem),
      h.required_bind "service_id" (by simp) (takes_string serviceId),
      h.optional_bind "access_group" (by simp) hgroup, Option.pure_def, Option.some.injEq, eq_comm (b := y),
      List.forall_mem_cons, true_and]
    tauto

/-! ## Settings -/

theorem Settings.takes_document (s : Settings) : Takes Readable.read? s.document s True := by
  obtain ⟨database, preferences, files, sync⟩ := s
  have hpreferences : ∀ p : PreferencesSettings, p.document.tree ≠ .null := by rintro (_ | _) <;> exact Json.noConfusion
  refine takes_record (fun _ _ => rfl) rfl (by simp) fun f part h y => ?_
  have hmem : ("sync", sync.document) ∈ [
      ("database", Document.ofOption (database.map (·.document))),
      ("preferences", .ofOption (preferences.map (·.document))), ("files", .ofOption (files.map (·.document))),
      ("sync", sync.document)] := by simp
  simp only [Option.bind_eq_bind, h.lookup hmem, sync.takes_document.bind_eq_some_iff (h.arranges _ hmem),
    section_bind h "database" database (by simp) DatabaseSettings.takes_document fun _ => Json.noConfusion,
    section_bind h "preferences" preferences (by simp) PreferencesSettings.takes_document hpreferences,
    section_bind h "files" files (by simp) FilesSettings.takes_document fun _ => Json.noConfusion, Option.pure_def,
    Option.some.injEq, eq_comm (b := y), List.forall_mem_cons, true_and]
  tauto

end TypedStorage
