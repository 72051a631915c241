/-
What an update tells. On a database that counts the rows that the condition of an update meets (`Sql.CountsMatches`),
an update of a record says whether a row with the record's key is there, and is announced only then
(`RecordType.update_apply`). But it assigns all values except the key: where the key is all that is kept of a record,
nothing is left to assign, the query is no statement, and the answer is no without a look at the table
(`RecordType.update_keyOnly_unseen`).
-/
import TypedStorage.Proofs.Store.Announcements
import TypedStorage.Proofs.Store.Projection

namespace TypedStorage

open Engine (Stored)

namespace Sql

variable {ρ : Type} {d : Dialect} {t : Table} {db : Database ρ} {rows : ρ → List Row}

/-- A key is found under its name, and null is nobody's key. -/
structure Dialect.TellsKeys (d : Dialect) (key : String) : Prop where
  column?_key : d.column? key = some key
  not_holds_null : ∀ v, d.holds key .equals .null v = false

variable (d t db rows) in
/-- An update that is made is answered with the number of rows that its condition met. -/
def CountsMatches : Prop :=
  ∀ (c : Command) assignments conditions keep,
    c.compile.statement? = some (.update t.name assignments conditions) →
    IsRegular t (.update t.name assignments conditions) → tests? d conditions = some keep →
    ∀ state n, (db.write c state).1 = .ok n → n = ((rows state).filter keep).length

/-- So is every update of a database that runs statements in the ordinary way. -/
theorem RunsTable.countsMatches (h : RunsTable d t db rows) : CountsMatches d t db rows := by
  intro c assignments conditions keep hs hr hkeep state n hn
  have hw := h.write c _ hs rfl hr state
  rw [change?, hkeep, Option.bind_eq_bind, Option.bind_some, checked] at hw
  split_ifs at hw
  · obtain ⟨state', hwrite, -⟩ := hw
    rw [hwrite] at hn
    exact (Except.ok.inj hn).symm
  · obtain ⟨e, state', hwrite, -⟩ := hw
    rw [hwrite] at hn
    cases hn

theorem length_filter_pos (keep : Row → Bool) (rows : List Row) :
    decide (0 < (rows.filter keep).length) = rows.any keep := by
  rw [Bool.eq_iff_iff, decide_eq_true_eq, List.length_pos_iff_exists_mem, List.any_eq_true]
  exact exists_congr fun _ => List.mem_filter

end Sql

namespace RecordStore

variable {ρ κ α : Type} (s : RecordStore ρ κ α)

/-- The outcome of an update: whether the record is there, and a change only if it is. -/
def updated (x : α) (isThere : Bool) : Outcome κ Bool :=
  ⟨isThere, if isThere then s.announce [s.recordChange .update x] else []⟩

/-- An update is what the database answers to its query. -/
theorem update_eq (x : α) (state : ρ) : s.update x state =
    ((s.database.execute (s.schema.updateQuery x) state).1.map fun n => s.updated x (0 < n),
      (s.database.execute (s.schema.updateQuery x) state).2) := by
  rw [update, Access.bind_apply]
  rcases s.database.execute (s.schema.updateQuery x) state with ⟨_ | n, after⟩
  · rfl
  · show (Except.ok (⟨decide (0 < n), _⟩ : Outcome κ Bool), after) = (.ok (s.updated x (0 < n)), after)
    by_cases hn : 0 < n <;> simp [updated, hn, announce_nil]

end RecordStore

namespace RecordType

variable {σ : String → Type} {t : RecordType}

/-- The key is all that is kept of a record. -/
def KeepsKeyOnly (t : RecordType) : Prop := ∀ f ∈ t.stored, f.isKey = true

instance : Decidable t.KeepsKeyOnly := inferInstanceAs (Decidable (∀ f ∈ t.stored, f.isKey = true))

/-- One of the rows has the key of the record. -/
def isThere (d : Sql.Dialect) (x : t.Record σ) (rows : List Sql.Row) : Bool :=
  rows.any fun row => Sql.clashes d [t.key.column] row (t.row x)

variable (h : (t.stored.map (·.column)).Nodup)

include h

/-- Without its key nothing is left of a record if the key is all that is kept. -/
theorem isEmpty_erase_key (x : t.Record σ) :
    ((t.fieldValues x).erase t.key.column).isEmpty = true ↔ t.KeepsKeyOnly := by
  constructor
  · intro hempty f hf
    by_contra hk
    have hne : f.column ≠ t.key.column := fun he => hk (by
      rw [List.inj_on_of_nodup_map h hf key_mem_stored he]
      exact key_mem.2)
    have hmem := KeyMap.mem_keys_erase.2 ⟨hne, (mem_keys_fieldValues h x).2 (List.mem_map_of_mem hf)⟩
    rw [KeyMap.isEmpty_eq_false hmem] at hempty
    cases hempty
  · intro honly
    by_contra hne
    obtain ⟨p, hp⟩ := List.exists_mem_of_ne_nil _ fun hnil => hne (List.isEmpty_iff.2 hnil)
    obtain ⟨hcolumn, hmem⟩ := KeyMap.mem_keys_erase.1 (List.mem_map_of_mem (f := Prod.fst) hp)
    obtain ⟨f, hf, he⟩ := List.mem_map.1 ((mem_keys_fieldValues h x).1 hmem)
    rw [eq_key (List.mem_filter.1 hf).1 (honly f hf)] at he
    exact hcolumn he.symm

theorem statement_updateQuery (x : t.Record σ) : (t.mapping.updateQuery x).statement = if t.KeepsKeyOnly then .noop
    else .update t.table ((t.fieldValues x).erase t.key.column).entries
      [(Filter.eq t.key.column (t.keyValue x)).condition] := by
  show (if ((t.fieldValues x).erase t.key.column).isEmpty then _ else _) = _
  exact if_congr (isEmpty_erase_key h x) rfl rfl

variable {d : Sql.Dialect} (hk : d.TellsKeys t.key.column)

include hk

/-- The condition of an update is met by the rows that have the record's key. -/
theorem tests?_key (x : t.Record σ) : Sql.tests? d [(Filter.eq t.key.column (t.keyValue x)).condition]
    = some fun row => Sql.clashes d [t.key.column] row (t.row x) := by
  refine Sql.tests?_singleton d ?_
  show (d.column? t.key.column).map _ = _
  rw [hk.column?_key, Option.map_some, Option.some_inj]
  funext row
  rw [Sql.clashes, List.all_cons, List.all_nil, Bool.and_true, row_eq h x (keyValue_mem_scalars x)]
  cases hrow : row t.key.column with
  | null => exact hk.not_holds_null _
  | _ => rfl

variable [∀ name, Inhabited (σ name)] {constants : Expression → Scalar} {ρ κ : Type} {s : RecordStore ρ κ (t.Record σ)}
  {rows : ρ → List Sql.Row}

/--
**An update tells whether a row with the record's key is there**, and is announced only if it is. An error of the
database is passed on. But of a record of which only the key is kept it always says that it is not there.
-/
theorem update_apply (hs : s.schema = t.schema constants)
    (hdb : Sql.CountsMatches d (t.sqlTable constants) s.database rows) (x : t.Record σ) (state : ρ) :
    s.update x state =
      if t.KeepsKeyOnly then (.ok (s.updated x false), state)
      else
        ((s.database.write (.query (t.mapping.updateQuery x)) state).1.map fun _ =>
            s.updated x (isThere d x (rows state)),
          (s.database.write (.query (t.mapping.updateQuery x)) state).2) := by
  have hquery : s.schema.updateQuery x = t.mapping.updateQuery x := by rw [hs]; rfl
  have hst := statement_updateQuery h x
  rw [RecordStore.update_eq, hquery, Database.execute]
  by_cases honly : t.KeepsKeyOnly
  · rw [if_pos honly] at hst ⊢
    rw [if_pos ((Query.isNoop_compile _).2 hst)]
    rfl
  · rw [if_neg honly] at hst ⊢
    have hread : (Command.query (t.mapping.updateQuery x)).compile.statement? = some _ :=
      (statement?_compile (namesValid_updateQuery h x)).trans (congrArg some hst)
    have hcount := hdb _ _ _ _ hread (isRegular_update h x _ _) (tests?_key h hk x) state
    have hne : (t.mapping.updateQuery x).statement ≠ .noop := by
      rw [hst]
      intro he
      cases he
    rw [Query.isNoop_eq_false hne, if_neg Bool.false_ne_true]
    cases hw : (s.database.write (.query (t.mapping.updateQuery x)) state).1 with
    | error e => rfl
    | ok n =>
      rw [Except.map, Except.map, hcount n hw, Sql.length_filter_pos]
      rfl

end RecordType

theorem Sql.Dialect.tellsKeys_plain {t : Table} {key : String} (h : (Dialect.plain t).column? key = some key) :
    (Dialect.plain t).TellsKeys key :=
  ⟨h, fun _ => rfl⟩

/-! ## A tag and a letter -/

namespace Samples

/-- A store with a database of its own, and one listener. -/
def heardStore (t : RecordType) : RecordStore (List Sql.Row) Unit (t.Record Unit) :=
  { storeOf t with signals := some ⟨[()]⟩ }

theorem stored_of_key_text : true = true → (FieldRole.stored ⟨.text, false⟩).isStored = true := fun _ => rfl

theorem fault?_tag : Identifier.fault? "tag" = none ∧ Identifier.fault? "tag_name" = none := by
  decide +kernel

/-- The counter of a tag is not kept, so that the key is the only column. -/
def tagType : RecordType where
  name := "Tag"
  table := "tag"
  fields := [
    ⟨"name", "tag_name", "TEXT", true, false, false, none, .stored ⟨.text, false⟩,
      fun _ => fault?_tag.2, stored_of_key_text⟩,
    ⟨"hits", "hits", "NUMERIC", false, true, false, none, .skipped,
      fun h => absurd h Bool.false_ne_true, fun h => absurd h Bool.false_ne_true⟩]
  table_valid := fault?_tag.1
  one_key := rfl

def tagOf (name : String) : tagType.Record Unit := (name, (), ())

def tags : List Sql.Row := [tagType.row (tagOf "a")]

theorem tellsKeys_tag : (Sql.Dialect.plain (tagType.sqlTable noConstants)).TellsKeys tagType.key.column :=
  Sql.Dialect.tellsKeys_plain (by decide +kernel)

theorem isThere_tag : RecordType.isThere (.plain (tagType.sqlTable noConstants)) (tagOf "a") tags = true :=
  rfl

theorem rankCount_pos : 0 < Double.rankCount := by decide

/-- A letter with the number zero. -/
def zeroLetter : letterType.Record Unit := letterOf ⟨false, 0, rankCount_pos⟩

def zeroLetters : List Sql.Row := [letterType.row zeroLetter]

theorem isThere_letter :
    RecordType.isThere (.plain (letterType.sqlTable noConstants)) zeroLetter zeroLetters = true :=
  rfl

theorem write_letter : ((heardStore letterType).database.write
    (.query (letterType.mapping.updateQuery zeroLetter)) zeroLetters).1 = .ok 1 :=
  rfl

end Samples

open Samples in
theorem RecordType.update_apply_letter : ((heardStore letterType).update zeroLetter zeroLetters).1
    = .ok ((heardStore letterType).updated zeroLetter true) := by
  have hk : (Sql.Dialect.plain (letterType.sqlTable noConstants)).TellsKeys letterType.key.column :=
    Sql.Dialect.tellsKeys_plain (by decide +kernel)
  have hdb : Sql.CountsMatches _ (letterType.sqlTable noConstants) (heardStore letterType).database id :=
    (runsTable_storeOf letterType).countsMatches
  have hother : ¬letterType.KeepsKeyOnly := by decide +kernel
  rw [update_apply (by decide +kernel) hk rfl hdb zeroLetter zeroLetters, if_neg hother, write_letter, id_eq,
    isThere_letter]
  rfl

open Samples in
/-- An update of a tag, which is there, says that it is not. -/
theorem RecordType.update_keyOnly_unseen :
    RecordType.ofDeclaration tag = .ok tagType ∧ (tagType.stored.map (·.column)).Nodup
      ∧ (Sql.Dialect.plain (tagType.sqlTable noConstants)).TellsKeys tagType.key.column
      ∧ Sql.CountsMatches (.plain (tagType.sqlTable noConstants)) (tagType.sqlTable noConstants)
        (heardStore tagType).database id
      ∧ tagType.keyValue (tagOf "a") ≠ .null
      ∧ isThere (.plain (tagType.sqlTable noConstants)) (tagOf "a") tags = true
      ∧ (heardStore tagType).update (tagOf "a") tags = (.ok ⟨false, []⟩, tags) :=
  ⟨rfl, by decide +kernel, tellsKeys_tag, (runsTable_storeOf tagType).countsMatches, nofun, isThere_tag, rfl⟩

end TypedStorage
