/-
Conflicts of a new table with one that is there. Before a table is created its name is looked for among the names of
all tables, permanent and temporary, and if it is there the definition is refused as a conflict. But it is looked for
letter by letter, while the engine takes names without regard to their case. So a table that has the name in another
spelling is no conflict: the definition goes to the engine, which refuses it in its own words if the table is among those
that the new one goes to, and elsewhere does not mind (`SqliteEngine.createTable_conflict_iff`).

Of the engine only two things are used: that it counts tables by the letters of their names, and that it creates no table
where its name is taken (`SqliteEngine.Holds`). Why else it may refuse a definition is left open.
-/
import TypedStorage.Proofs.Store.Migration

namespace TypedStorage

/-- No fault of the database is a conflict. -/
theorem StoreError.mapError_ofFault_ne {α : Type} (r : Except DatabaseFault α) (name : String) :
    r.mapError ofFault ≠ .error (.schemaConflict name) := by
  rcases r with fault | x
  · cases fault <;> nofun
  · nofun

/-- The names of the tables of a database, as they are spelled. -/
structure TableNames where
  permanent : List String
  temporary : List String

namespace TableNames

def all (names : TableNames) : List String := names.temporary ++ names.permanent

/-- A permanent or temporary table has this name, in whatever spelling. -/
def Has (names : TableNames) (name : String) : Prop := ∃ n ∈ names.all, Identifier.upper n = Identifier.upper name

/-- No table has this name in another spelling. -/
def SpelledAlike (names : TableNames) (name : String) : Prop :=
  ∀ n ∈ names.all, Identifier.upper n = Identifier.upper name → n = name

/-- A table has the name of the definition, among those that its own table would go to. -/
def Taken (names : TableNames) (d : TableDefinition) : Prop :=
  ∃ n ∈ if d.options.temporary then names.temporary else names.permanent, Identifier.upper n = Identifier.upper d.name

end TableNames

namespace SqliteEngine

variable {σ : Type} {e : SqliteEngine σ} {names : TableNames} {state : σ} {d : TableDefinition}

/-- The engine holds tables of these names. -/
structure Holds (e : SqliteEngine σ) (names : TableNames) (state : σ) : Prop where
  /-- Names are compared letter by letter where tables are counted, and nothing changes by that. -/
  counted : ∀ name, e.countTables name state = (.ok (names.all.count name), state)
  /-- Where the name is taken, in whatever spelling, no table is created and nothing changes. -/
  taken : ∀ d : TableDefinition, d.validate = .ok () → d.options.ifNotExists = false → names.Taken d →
    ∃ fault, e.create d state = (.error fault, state)

/-- A table of the name of the definition, letter by letter, where there may be none. -/
def Conflict (names : TableNames) (d : TableDefinition) : Prop := d.options.ifNotExists = false ∧ d.name ∈ names.all

instance (names : TableNames) (d : TableDefinition) : Decidable (Conflict names d) := inferInstanceAs (Decidable (_ ∧ _))

theorem tableExists_apply (h : e.Holds names state) (name : String) :
    e.tableExists name state = (.ok (decide (name ∈ names.all)), state) := by
  rw [tableExists, Access.bind_apply, access_apply, h.counted]
  show (Except.ok (decide (0 < names.all.count name)), state) = _
  simp only [List.count_pos_iff]

theorem createTable_of_valid (e : SqliteEngine σ) (hv : d.validate = .ok ()) : e.createTable d =
    if d.options.ifNotExists then access (e.create d)
    else e.tableExists d.name >>= fun isThere =>
      if isThere then throw (.schemaConflict d.name) else access (e.create d) := by
  rw [createTable, hv]
  cases d.options.ifNotExists with
  | true => rfl
  | false =>
    show (e.tableExists d.name >>= _) = (e.tableExists d.name >>= _)
    congr 1

/-- A valid definition goes to the engine unless there is a conflict. -/
theorem createTable_apply (h : e.Holds names state) (hv : d.validate = .ok ()) : e.createTable d state =
    if Conflict names d then (.error (.schemaConflict d.name), state) else access (e.create d) state := by
  rw [createTable_of_valid e hv]
  by_cases hn : d.options.ifNotExists
  · have hfree : ¬Conflict names d := fun hc => Bool.false_ne_true (hc.1.symm.trans hn)
    rw [if_pos hn, if_neg hfree]
  · rw [if_neg hn, Access.bind_apply, tableExists_apply h]
    by_cases hthere : d.name ∈ names.all
    · rw [if_pos ⟨Bool.eq_false_iff.2 hn, hthere⟩, decide_eq_true hthere]
      rfl
    · rw [if_neg fun hc : Conflict names d => hthere hc.2, decide_eq_false hthere]
      rfl

/-- Where there may be a table already, no other is looked for. -/
theorem createTable_of_ifNotExists (e : SqliteEngine σ) (hn : d.options.ifNotExists = true) (state : σ) (name : String) :
    (e.createTable d state).1 ≠ .error (.schemaConflict name) := by
  cases hv : d.validate with
  | error fault =>
    rw [show e.createTable d state = _ from e.checksDefinitions d fault state hv]
    nofun
  | ok _ =>
    rw [createTable_of_valid e hv, if_pos hn, access_apply]
    exact StoreError.mapError_ofFault_ne _ name

theorem createTable_of_not_conflict (h : e.Holds names state) (hv : d.validate = .ok ()) (hc : ¬Conflict names d)
    (name : String) : (e.createTable d state).1 ≠ .error (.schemaConflict name) := by
  rw [createTable_apply h hv, if_neg hc, access_apply]
  exact StoreError.mapError_ofFault_ne _ name

/--
**Which tables are a conflict.** Where there may be a table already none is. Else the tables are that are spelled like
the new one, permanent or temporary, and a conflict changes nothing; these are all tables of the name if none has it in
another spelling. If none is spelled like it the answer is the engine's to the statement, and never a conflict: not even
where a table has the name in another spelling, among those that the new one goes to, and the engine refuses.
-/
theorem createTable_conflict_iff (h : e.Holds names state) (d : TableDefinition) :
    (d.options.ifNotExists = true → ∀ name, (e.createTable d state).1 ≠ .error (.schemaConflict name)) ∧
      (d.options.ifNotExists = false → d.validate = .ok () →
        (e.createTable d state = (.error (.schemaConflict d.name), state) ↔ d.name ∈ names.all) ∧
        (names.SpelledAlike d.name →
          (e.createTable d state = (.error (.schemaConflict d.name), state) ↔ names.Has d.name)) ∧
        (d.name ∉ names.all →
          e.createTable d state = ((e.create d state).1.mapError .ofFault, (e.create d state).2) ∧
          (∀ name, (e.createTable d state).1 ≠ .error (.schemaConflict name)) ∧
          (names.Taken d → ∃ fault, e.createTable d state = (.error (.ofFault fault), state)))) := by
  refine ⟨fun hn => createTable_of_ifNotExists e hn state, fun hn hv => ?_⟩
  have hspelled : e.createTable d state = (.error (.schemaConflict d.name), state) ↔ d.name ∈ names.all := by
    constructor
    · intro hconflict
      refine Decidable.byContradiction fun hnot => ?_
      exact createTable_of_not_conflict h hv (fun hc => hnot hc.2) d.name (congrArg Prod.fst hconflict)
    · intro hthere
      rw [createTable_apply h hv, if_pos ⟨hn, hthere⟩]
  refine ⟨hspelled, fun halike => hspelled.trans ?_, fun hnot => ?_⟩
  · exact ⟨fun hthere => ⟨d.name, hthere, rfl⟩, fun ⟨n, hn, hsame⟩ => halike n hn hsame ▸ hn⟩
  · have hgoes : e.createTable d state = ((e.create d state).1.mapError .ofFault, (e.create d state).2) := by
      rw [createTable_apply h hv, if_neg fun hc => hnot hc.2, access_apply]
    refine ⟨hgoes, createTable_of_not_conflict h hv fun hc => hnot hc.2, fun htaken => ?_⟩
    obtain ⟨fault, hfault⟩ := h.taken d hv hn htaken
    exact ⟨fault, by rw [hgoes, hfault]; rfl⟩

end SqliteEngine

/-! ## A table of notes -/

namespace Engine

namespace Catalog

variable {c : Catalog} {d : TableDefinition}

def names (c : Catalog) : TableNames := ⟨c.permanent.map (·.name), c.temporary.map (·.name)⟩

theorem names_all (c : Catalog) : c.names.all = c.all.map (·.name) := (List.map_append ..).symm

/-- A name is taken for all tables that have it in any case of its letters. -/
theorem create_of_taken (hn : d.options.ifNotExists = false) (h : c.names.Taken d) :
    ∃ fault, c.create d = .error fault := by
  have hsome : (lookup? (if d.options.temporary then c.temporary else c.permanent) d.name).isSome := by
    obtain ⟨n, hmem, hsame⟩ := h
    rw [names, ← apply_ite (List.map _)] at hmem
    obtain ⟨t, ht, rfl⟩ := List.mem_map.1 hmem
    exact List.find?_isSome.2 ⟨t, ht, decide_eq_true hsame⟩
  rw [create]
  by_cases hr : isReserved d.name
  · rw [if_pos hr]
    exact ⟨_, rfl⟩
  · rw [if_neg hr]
    show ∃ fault, (if (lookup? (if d.options.temporary then c.temporary else c.permanent) d.name).isSome then _ else _) = _
    rw [if_pos hsome, hn]
    exact ⟨_, rfl⟩

end Catalog

namespace Connection

open SqliteEngine

theorem holds {c : Connection} (ho : c.isOpen) : engine.Holds c.catalog.names c where
  counted name := by
    show call (fun c => (.ok (c.catalog.count name), c)) c = _
    rw [call, if_pos ho, Catalog.count, Catalog.names_all]
  taken d _ hn htaken := by
    obtain ⟨fault, hfault⟩ := Catalog.create_of_taken hn htaken
    refine ⟨fault, ?_⟩
    show call (create d) c = _
    rw [call, if_pos ho, create, hfault]

/-- A table of notes under another name. -/
def notesNamed (name : String) (options : List TableOption) : TableDefinition :=
  ⟨name, [.ofType "id" .integer], .ofList options⟩

theorem has_notes : notes.catalog.names.Has "NOTE" := ⟨"note", .head _, by decide +kernel⟩

theorem not_mem_notes : "NOTE" ∉ notes.catalog.names.all := by decide +kernel

theorem createTable_notesNamed :
    engine.createTable (notesNamed "note" []) notes = (.error (.schemaConflict "note"), notes) ∧
      (∃ fault, engine.createTable (notesNamed "NOTE" []) notes = (.error (.ofFault fault), notes)) ∧
      (engine.createTable (notesNamed "NOTE" [.temporary]) notes).1 = .ok () ∧
      ∀ name, (engine.createTable (notesNamed "note" [.ifNotExists]) notes).1 ≠ .error (.schemaConflict name) := by
  have hnotes := createTable_conflict_iff (holds (c := notes) rfl)
  refine ⟨?_, ?_, ?_, (hnotes _).1 rfl⟩
  · exact ((hnotes (notesNamed "note" [])).2 rfl rfl).1.2 (by decide +kernel)
  · exact (((hnotes (notesNamed "NOTE" [])).2 rfl rfl).2.2 not_mem_notes).2.2 has_notes
  · rw [(((hnotes (notesNamed "NOTE" [.temporary])).2 rfl rfl).2.2 not_mem_notes).1]
    rfl

/-- A table that has the name in another spelling is not said to be a conflict. -/
theorem not_createTable_conflict_iff : ¬∀ (e : SqliteEngine Connection) (names : TableNames) (state : Connection)
    (d : TableDefinition), e.Holds names state → d.options.ifNotExists = false → d.validate = .ok () →
      (e.createTable d state = (.error (.schemaConflict d.name), state) ↔ names.Has d.name) := by
  intro h
  have hconflict := (h engine _ notes (notesNamed "NOTE" []) (holds rfl) rfl rfl).2 has_notes
  exact createTable_of_not_conflict (holds (c := notes) rfl) rfl (fun hc => not_mem_notes hc.2) _
    (congrArg Prod.fst hconflict)

end Connection

end Engine

end TypedStorage
