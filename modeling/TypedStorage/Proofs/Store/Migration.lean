/-
Migrations that fail because the definition is refused. A database looks at a definition when it is to create the
table, and to recreate one it is told to drop the old table first. So a refused definition leaves everything as it is
only where nothing is recreated (`autoMigrate_false`); else the drop has been executed by the time the definition is
looked at (`autoMigrate_true`), and the table that the name means is lost with its rows.

What a drop does is the engine's matter; it may do more than take the rows of one table, or be refused. All that is asked
of an engine is that a table is empty after a drop of it that succeeds (`SqliteEngine.Drops`).
-/
import TypedStorage.Engine.Connection
import TypedStorage.Proofs.Store.Answers

namespace TypedStorage

namespace Database

variable {σ : Type} {db : Database σ} {d : TableDefinition} {e : ValidationError}

/-- A definition that has a fault is refused for it, before anything is done for its table. -/
def ChecksDefinitions (db : Database σ) : Prop :=
  ∀ (d : TableDefinition) (e : ValidationError) (state : σ), d.validate = .error e →
    db.createTable d state = (.error (.ofValidation e), state)

theorem lifted_apply {α : Type} (a : Access σ α) (state : σ) :
    lifted a state = ((a state).1.mapError .ofStore, (a state).2) := by
  rw [lifted, ExceptT.mk, ExceptT.run]
  simp only [bind, StateT.bind]
  rcases a state with ⟨_ | _, state'⟩ <;> rfl

theorem autoMigrate_apply (recreate : Bool) (state : σ) : autoMigrate (some db) d recreate state =
    ((db.migrate d recreate state).1.mapError .ofStore, (db.migrate d recreate state).2) :=
  lifted_apply (db.migrate d recreate) state

/-- Whether a table may be there already is no matter for the check. -/
theorem createTable_withOption (hdb : db.ChecksDefinitions) (h : d.validate = .error e) (state : σ) :
    db.createTable (d.withOption .ifNotExists) state = (.error (.ofValidation e), state) :=
  hdb (d.withOption .ifNotExists) e state h

theorem autoMigrate_false (hdb : db.ChecksDefinitions) (h : d.validate = .error e) (state : σ) :
    autoMigrate (some db) d false state = (.error (.ofStore (.ofValidation e)), state) := by
  have hmigrate : db.migrate d false state = (.error (.ofValidation e), state) := createTable_withOption hdb h state
  rw [autoMigrate_apply, hmigrate]
  rfl

/-- Whoever recreates the table is told of the fault when the drop has succeeded, and of the drop's own fault else. -/
theorem autoMigrate_true (hdb : db.ChecksDefinitions) (h : d.validate = .error e) (state : σ) :
    autoMigrate (some db) d true state =
      (.error (.ofStore (match (db.write (.drop d) state).1 with
        | .ok _ => .ofValidation e
        | .error refusal => refusal)), (db.write (.drop d) state).2) := by
  have hmigrate : db.migrate d true state =
      (db.write (.drop d) >>= fun _ => db.createTable (d.withOption .ifNotExists)) state := rfl
  rw [autoMigrate_apply, hmigrate, Access.bind_apply]
  rcases db.write (.drop d) state with ⟨_ | _, after⟩
  · rfl
  · dsimp only
    rw [createTable_withOption hdb h]
    rfl

end Database

/-! ## Behind the adapter -/

namespace SqliteEngine

open Database

variable {σ τ ρ α : Type} {d : TableDefinition} {fault : ValidationError}

/-- The adapter looks at a definition before it calls the engine. -/
theorem checksDefinitions (e : SqliteEngine σ) : e.database.ChecksDefinitions := by
  intro d fault state h
  show e.createTable d state = _
  rw [createTable, h]
  rfl

/-- Recreating the table of a refused definition is to drop it, and nothing else. -/
theorem autoMigrate_true (e : SqliteEngine σ) (h : d.validate = .error fault) (state : σ) :
    autoMigrate (some e.database) d true state =
      (.error (.ofStore (match (e.write (.drop d) state).1 with
        | .ok _ => .ofValidation fault
        | .error refusal => .ofFault refusal)), (e.write (.drop d) state).2) := by
  have hwrite : e.database.write (.drop d) state = _ := access_apply (e.write (.drop d)) state
  rw [Database.autoMigrate_true e.checksDefinitions h, hwrite]
  rcases (e.write (.drop d) state).1 with refusal | n <;> rfl

/-- So it is the definition that is complained of only if the table has been dropped. -/
theorem write_of_autoMigrate_true {e : SqliteEngine σ} (h : d.validate = .error fault) {state : σ}
    (ha : (autoMigrate (some e.database) d true state).1 = .error (.ofStore (.ofValidation fault))) :
    ∃ n, e.write (.drop d) state = (.ok n, (autoMigrate (some e.database) d true state).2) := by
  rw [autoMigrate_true e h] at ha ⊢
  rcases hwrite : e.write (.drop d) state with ⟨refusal | n, after⟩
  · -- no fault of the engine is one of a definition
    rw [hwrite] at ha
    cases refusal <;> cases ha
  · exact ⟨n, rfl⟩

/-- Which table a name means in a state, and the rows of each table. -/
structure Tables (σ τ ρ : Type) where
  meant : σ → String → Option τ
  rows : σ → τ → List ρ

/-- A table that was dropped under its name has no rows any more. -/
def Drops (e : SqliteEngine σ) (tables : Tables σ τ ρ) : Prop :=
  ∀ (d : TableDefinition) state t n after, Identifier.isValid d.name → tables.meant state d.name = some t →
    e.write (.drop d) state = (.ok n, after) → tables.rows after t = []

/--
**What a migration destroys when the definition is refused.** Without recreating the table it destroys nothing, whatever
the definition: the engine is not called. Recreating it executes the statement that drops the table and nothing else; and
if the name is one that a table may have, the table that it means has lost all its rows when the definition is complained
of.
-/
theorem autoMigrate_of_rejected (e : SqliteEngine σ) (h : d.validate = .error fault) (state : σ) :
    autoMigrate (some e.database) d false state = (.error (.ofStore (.ofValidation fault)), state) ∧
      autoMigrate (some e.database) d true state =
        (.error (.ofStore (match (e.write (.drop d) state).1 with
          | .ok _ => .ofValidation fault
          | .error refusal => .ofFault refusal)), (e.write (.drop d) state).2) ∧
      ∀ {τ ρ : Type} (tables : Tables σ τ ρ), e.Drops tables → Identifier.isValid d.name → ∀ t,
        tables.meant state d.name = some t →
          (autoMigrate (some e.database) d true state).1 = .error (.ofStore (.ofValidation fault)) →
            tables.rows (autoMigrate (some e.database) d true state).2 t = [] := by
  refine ⟨autoMigrate_false e.checksDefinitions h state, autoMigrate_true e h state, ?_⟩
  intro τ ρ tables hdrops hname t ht ha
  obtain ⟨n, hwrite⟩ := write_of_autoMigrate_true h ha
  exact hdrops d state t n _ hname ht hwrite

end SqliteEngine

/-! ## A table of notes -/

namespace Engine.Connection

open Database SqliteEngine

/-- The tables of a connection: whether they are temporary, and their names in capitals. -/
def tables : SqliteEngine.Tables Connection (Bool × String) Row where
  meant c name :=
    if (Catalog.lookup? c.catalog.temporary name).isSome then some (true, Identifier.upper name)
    else (Catalog.lookup? c.catalog.permanent name).map fun _ => (false, Identifier.upper name)
  rows c t := ((if t.1 then c.catalog.temporary else c.catalog.permanent).filter
    fun u => Identifier.upper u.name = t.2).flatMap (·.rows)

/-- What is answered was asked while the connection was open. -/
theorem isOpen_of_call_eq_ok {α : Type} {f : Connection → Run α × Connection} {c c' : Connection} {x : α}
    (h : call f c = (.ok x, c')) : c.isOpen := by
  unfold call at h
  split at h
  · assumption
  · cases h

theorem write_drop {c : Connection} (ho : c.isOpen) (d : TableDefinition) :
    engine.write (.drop d) c = (.ok c.changes, { c with catalog := c.catalog.drop d.name }) := by
  show call (write (.drop d)) c = _
  rw [call, if_pos ho]
  rfl

/-- The tables are dropped that have the name, in whatever case of its letters. -/
theorem drops : engine.Drops tables := by
  intro d c t n after _ hmeant hwrite
  have hopen : c.isOpen := isOpen_of_call_eq_ok hwrite
  rw [write_drop hopen] at hwrite
  obtain rfl := (Prod.mk.inj hwrite).2
  have hgone : ∀ ts : List Table, ((ts.filter fun u => !Table.sameName u.name d.name).filter
      fun u => Identifier.upper u.name = Identifier.upper d.name) = [] := by
    intro ts
    simp [List.filter_filter, Table.sameName]
  simp only [tables, Catalog.drop] at hmeant ⊢
  split at hmeant
  · next htemporary =>
    cases hmeant
    rw [if_pos htemporary, if_pos rfl, hgone]
    rfl
  · next htemporary =>
    obtain ⟨u, -, rfl⟩ := Option.map_eq_some_iff.1 hmeant
    rw [if_neg htemporary, if_neg Bool.false_ne_true, hgone]
    rfl

/-- The table of notes with a boolean column, which no strict table may have. -/
def strictNotes : TableDefinition := ⟨"note", [.ofType "pinned" .boolean], .ofList [.strict]⟩

/-- The notes that were kept before their table was to be strict. -/
def notes : Connection :=
  ⟨memoryPath, true, ⟨[], [⟨"note", [⟨"pinned", .numeric, .null, false, none⟩], [], none, [⟨1, [.integer 1]⟩]⟩]⟩, 0, []⟩

theorem validate_strictNotes : strictNotes.validate = .error (.strictType "pinned" "BOOLEAN") := by rfl

theorem meant_notes : tables.meant notes strictNotes.name = some (false, "NOTE") := by decide +kernel

theorem rows_notes : tables.rows notes (false, "NOTE") = [⟨1, [.integer 1]⟩] := by decide +kernel

/-- The migration is refused for the definition, and the one note is no longer there. -/
theorem autoMigrate_strictNotes :
    autoMigrate (some engine.database) strictNotes false notes =
      (.error (.ofStore (.ofValidation (.strictType "pinned" "BOOLEAN"))), notes) ∧
    (autoMigrate (some engine.database) strictNotes true notes).1 =
      .error (.ofStore (.ofValidation (.strictType "pinned" "BOOLEAN"))) ∧
    tables.rows notes (false, "NOTE") = [⟨1, [.integer 1]⟩] ∧
    tables.rows (autoMigrate (some engine.database) strictNotes true notes).2 (false, "NOTE") = [] := by
  obtain ⟨hkept, hdropped, hlost⟩ := autoMigrate_of_rejected engine validate_strictNotes notes
  rw [write_drop rfl] at hdropped
  have hanswer := congrArg Prod.fst hdropped
  exact ⟨hkept, hanswer, rows_notes, hlost tables drops (by decide +kernel) _ meant_notes hanswer⟩

/-- A migration that is refused can lose every row of its table. -/
theorem not_kept_of_rejected : ¬∀ (e : SqliteEngine Connection) (tables : SqliteEngine.Tables Connection (Bool × String) Row)
    (d : TableDefinition) (fault : ValidationError) (state : Connection) (recreate : Bool), e.Drops tables →
      d.validate = .error fault →
        (autoMigrate (some e.database) d recreate state).1 = .error (.ofStore (.ofValidation fault)) →
          ∀ t, tables.rows (autoMigrate (some e.database) d recreate state).2 t = tables.rows state t := by
  intro h
  have hmigrate := SqliteEngine.autoMigrate_true engine validate_strictNotes notes
  rw [write_drop rfl] at hmigrate
  have hkept := h engine tables strictNotes _ notes true drops validate_strictNotes (congrArg Prod.fst hmigrate)
    (false, "NOTE")
  rw [hmigrate, rows_notes] at hkept
  have hlost : tables.rows { notes with catalog := notes.catalog.drop strictNotes.name } (false, "NOTE") = [] :=
    drops strictNotes notes _ _ _ (by decide +kernel) meant_notes (write_drop rfl strictNotes)
  rw [hlost] at hkept
  cases hkept

end Engine.Connection

end TypedStorage
