/-
The first of what is found. `find` asks for as many rows as the selection says, `findOne` for one, and takes the last
record of the answer. Where the database answers a selection with a window on rows that are the same whatever its limit
and offset (`Database.IsWindowed`), `findOne` finds the first of the records that `find` finds
(`RecordStore.findOne_eq_head?`). Its limit takes the place of the selection's own: what `find` finds with a limit of zero
is nothing, but `findOne` answers as without a limit.

An engine may visit the rows in another order if it is asked for few of them, and then rows that the sort does not tell
apart come in another order too. The one that the library runs on here takes no notice of a limit
(`Engine.Connection.isWindowed_connection`).
-/
import TypedStorage.Engine.Connection
import TypedStorage.Proofs.Store.Refinement

namespace TypedStorage

/-- The numbers that are 64-bit integers with a sign. -/
@[reducible]
def Sql.IsInteger (n : UInt64) : Prop := n.toNat < 0x8000000000000000

/-- The selection with another window on the rows. -/
def Selection.within (q : Selection) (limit offset : Option UInt64) : Selection := { q with limit, offset }

/-- A limit and an offset that are of such numbers. -/
def TakesBoth (takes : UInt64 → Prop) (limit offset : Option UInt64) : Prop :=
  (∀ n ∈ limit, takes n) ∧ ∀ n ∈ offset, takes n

/-! ## Windows -/

/--
However the selection is limited, the database shows a window on these rows, if it takes the numbers. What it answers
with is such a window, and of numbers that it takes, unless nothing is asked for.
-/
structure Database.Windows {σ : Type} (db : Database σ) (table : String) (q : Selection) (state : σ)
    (takes : UInt64 → Prop) (listing : Except StoreError (List ValueMap)) : Prop where
  takes_one : takes 1
  taken : ∀ {limit offset}, TakesBoth takes limit offset →
    (db.read (.query ((q.within limit offset).of table)) state).1 = listing.map (Sql.window limit offset)
  answered : ∀ limit offset {found}, (db.read (.query ((q.within limit offset).of table)) state).1 = .ok found →
    (∃ rows, listing = .ok rows ∧ found = Sql.window limit offset rows) ∧
      (limit ≠ some 0 → TakesBoth takes limit offset)

/-- The database orders the rows, skips some and takes some, as the statement of the selection says. -/
def Database.IsWindowed {σ : Type} (db : Database σ) (table : String) (q : Selection) (state : σ) : Prop :=
  ∃ takes listing, db.Windows table q state takes listing

@[simp]
theorem Sql.window_zero {α : Type} (offset : Option UInt64) (rows : List α) : window (some 0) offset rows = [] :=
  List.take_zero (l := rows.drop (offset.getD 0).toNat)

/-- A window of one row is the first row of any wider window that starts there. -/
theorem Sql.window_one {α : Type} {limit : Option UInt64} (h : limit ≠ some 0) (offset : Option UInt64)
    (rows : List α) : window (some 1) offset rows = (window limit offset rows).head?.toList := by
  have hone : window (some 1) offset rows = (rows.drop (offset.getD 0).toNat).head?.toList := List.take_one
  rw [hone]
  cases limit with
  | none => rfl
  | some n =>
    have hn : n.toNat ≠ 0 := fun h0 => h (congrArg some (UInt64.toNat_inj.1 h0))
    rw [window, List.head?_take, if_neg hn]

theorem mapError_eq_ok {ε ε' α : Type} {r : Except ε α} {f : ε → ε'} {x : α} : r.mapError f = .ok x ↔ r = .ok x := by
  cases r <;> simp [Except.mapError]

theorem bind_eq_ok {ε α β : Type} {r : Except ε α} {f : α → Except ε β} {y : β} :
    r.bind f = .ok y ↔ ∃ x, r = .ok x ∧ f x = .ok y := by
  cases r <;> simp [Except.bind]

theorem mapM_head? {α β ε : Type} {f : α → Except ε β} {xs : List α} {ys : List β} (h : xs.mapM f = .ok ys) :
    xs.head?.toList.mapM f = .ok ys.head?.toList := by
  cases xs with
  | nil =>
    cases h
    rfl
  | cons x xs =>
    rw [List.mapM_cons] at h
    obtain ⟨y, hx, h⟩ := bind_eq_ok.1 h
    obtain ⟨ys', -, h⟩ := bind_eq_ok.1 h
    cases h
    simp [hx]

open List.MergeSort.Internal in
/-- Two rows are sorted by comparing them. -/
theorem mergeSort_pair {α : Type} (le : α → α → Bool) (a b : α) :
    [a, b].mergeSort le = if le a b then [a, b] else [b, a] := by
  have hmerge : [a, b].mergeSort le = ([a].mergeSort le).merge ([b].mergeSort le) le := by
    conv => lhs; rw [List.mergeSort, splitInTwo_fst, splitInTwo_snd]
    simp
  rw [hmerge, List.mergeSort_singleton, List.mergeSort_singleton, List.cons_merge_cons, List.nil_merge, List.merge_right]

namespace RecordStore

variable {σ κ α : Type} (s : RecordStore σ κ α) {q : Selection} {state : σ}

/-- A selection is answered with the records in the rows that the database finds for it. -/
theorem find_fst (q : Selection) (state : σ) : (s.find q state).1 =
    (s.database.read (.query (q.of s.schema.table)) state).1.bind fun found => found.mapM s.schema.ofRow := by
  have hne : (q.of s.schema.table).statement ≠ .noop := fun he => by cases he
  rw [find, fetchRecords_apply, Database.fetch, Query.isNoop_eq_false hne, if_neg Bool.false_ne_true]
  rcases s.database.read (.query (q.of s.schema.table)) state with ⟨_ | _, _⟩ <;> rfl

theorem findOne_fst (q : Selection) (state : σ) : (s.findOne q state).1 =
    (s.find (q.within (some 1) q.offset) state).1.map (·.getLast?) := by
  have hone : q.step (.limit 1) = q.within (some 1) q.offset := rfl
  rw [findOne, Access.bind_apply, hone]
  rcases s.find (q.within (some 1) q.offset) state with ⟨_ | _, _⟩ <;> rfl

theorem exists_of_find_eq_ok {xs : List α} (h : (s.find q state).1 = .ok xs) :
    ∃ found, (s.database.read (.query (q.of s.schema.table)) state).1 = .ok found
      ∧ found.mapM s.schema.ofRow = .ok xs := by
  rw [find_fst] at h
  exact bind_eq_ok.1 h

variable {s} (hw : s.database.IsWindowed s.schema.table q state)

include hw

/-- One record is found where any are, and it is the first of them. -/
theorem findOne_of_within (limit : Option UInt64) (hlimit : limit ≠ some 0) {xs : List α}
    (h : (s.find (q.within limit q.offset) state).1 = .ok xs) : (s.findOne q state).1 = .ok xs.head? := by
  obtain ⟨takes, listing, hw⟩ := hw
  obtain ⟨found, hread, hfound⟩ := s.exists_of_find_eq_ok h
  obtain ⟨⟨rows, rfl, rfl⟩, htakes⟩ := hw.answered limit q.offset hread
  have hone : TakesBoth takes (some 1) q.offset :=
    ⟨fun n hn => Option.some.inj hn ▸ hw.takes_one, (htakes hlimit).2⟩
  have hfirst : (s.database.read (.query ((q.within (some 1) q.offset).of s.schema.table)) state).1
      = .ok (Sql.window limit q.offset rows).head?.toList := by
    rw [hw.taken hone, ← Sql.window_one hlimit]
    rfl
  have hlast : xs.head?.toList.getLast? = xs.head? := by cases xs <;> rfl
  rw [findOne_fst, find_fst, hfirst, ← hlast]
  exact congrArg (Except.map (·.getLast?)) (mapM_head? hfound)

/--
**`findOne` finds the first of what `find` finds**, if anything, unless the selection asks for no rows at all: then
`find` finds nothing, and `findOne` the first of what there is without that limit.
-/
theorem findOne_eq_head? :
    (q.limit ≠ some 0 → ∀ xs, (s.find q state).1 = .ok xs → (s.findOne q state).1 = .ok xs.head?) ∧
      (q.limit = some 0 → (∀ xs, (s.find q state).1 = .ok xs → xs = []) ∧
        ∀ xs, (s.find { q with limit := none } state).1 = .ok xs → (s.findOne q state).1 = .ok xs.head?) := by
  refine ⟨fun hlimit xs h => findOne_of_within hw q.limit hlimit h, fun hzero => ⟨fun xs h => ?_, fun xs h => ?_⟩⟩
  · obtain ⟨takes, listing, hw⟩ := hw
    obtain ⟨found, hread, hfound⟩ := s.exists_of_find_eq_ok h
    obtain ⟨⟨rows, -, rfl⟩, -⟩ := hw.answered q.limit q.offset hread
    rw [hzero, Sql.window_zero] at hfound
    cases hfound
    rfl
  · exact findOne_of_within hw none (by simp) h

end RecordStore

/-! ## The engine that the library runs on -/

namespace Engine

open Sql (IsInteger)

namespace Table

variable {limit offset : Option UInt64}

theorem takesBoth_iff : TakesBoth IsInteger limit offset ↔
    ¬0x8000000000000000 ≤ (limit.getD 0).toNat ∧ ¬0x8000000000000000 ≤ (offset.getD 0).toNat := by
  cases limit <;> cases offset <;> simp [TakesBoth, IsInteger]

theorem window_of_takesBoth {α : Type} (h : TakesBoth IsInteger limit offset) (rows : List α) :
    window limit offset rows = .ok (Sql.window limit offset rows) := by
  obtain ⟨hlimit, hoffset⟩ := takesBoth_iff.1 h
  rw [window]
  split
  · next hzero => rw [hzero, Sql.window_zero]
  · simp only [decide_eq_false hlimit, decide_eq_false hoffset, Bool.or_false, Bool.false_eq_true, if_false]
    rfl

theorem window_of_not_takesBoth {α : Type} (hzero : limit ≠ some 0) (h : ¬TakesBoth IsInteger limit offset)
    (rows : List α) : window limit offset rows = mismatch := by
  have hlarge : 0x8000000000000000 ≤ (limit.getD 0).toNat ∨ 0x8000000000000000 ≤ (offset.getD 0).toNat := by
    by_contra hsmall
    exact h (takesBoth_iff.2 (not_or.1 hsmall))
  rw [window, if_neg hzero]
  simp only [Bool.or_eq_true, decide_eq_true_eq, hlarge, if_true]

theorem eq_of_window_eq_ok {α : Type} {rows found : List α} (h : window limit offset rows = .ok found) :
    found = Sql.window limit offset rows ∧ (limit ≠ some 0 → TakesBoth IsInteger limit offset) := by
  by_cases htakes : TakesBoth IsInteger limit offset
  · rw [window_of_takesBoth htakes] at h
    cases h
    exact ⟨rfl, fun _ => htakes⟩
  · by_cases hzero : limit = some 0
    · subst hzero
      cases h
      exact ⟨(Sql.window_zero offset rows).symm, fun hne => absurd rfl hne⟩
    · rw [window_of_not_takesBoth hzero htakes] at h
      cases h

theorem map_window {α β : Type} (f : α → β) (rows : List α) :
    (window limit offset rows).map (List.map f) = window limit offset (rows.map f) := by
  unfold window
  dsimp only
  split
  · rfl
  · split
    · rfl
    · cases limit <;> simp [Except.map]

/-- A selection shows a window on what it shows without limits. -/
theorem select_within (t : Table) (q : Selection) : t.select (q.within limit offset) =
    (t.select (q.within none none)).bind (window limit offset) := by
  have hnone : ∀ rows : List Row, window none none rows = .ok rows := fun _ => rfl
  simp only [select, Selection.within, hnone]
  cases t.fieldPlaces q.fields with
  | error fault => rfl
  | ok places =>
    cases t.tests q.filters with
    | error fault => rfl
    | ok tests =>
      cases q.sort.mapM fun k => (t.place k.field).map fun i => (i, k.direction) with
      | error fault => rfl
      | ok keys =>
        show (window limit offset _).bind (fun rows => .ok (rows.map (t.project places))) = window limit offset _
        rw [← map_window]
        cases window limit offset _ <;> rfl

end Table

namespace Connection

theorem read_fst (command : Command) (c : Connection) :
    (database.read command c).1 = (call (read command) c).1.mapError .ofFault :=
  congrArg Prod.fst (SqliteEngine.access_apply (call (read command)) c)

/-- What an open connection finds for a selection. -/
theorem read_select {c : Connection} (ho : c.isOpen) (table : String) (q : Selection) :
    (database.read (.query (q.of table)) c).1 = match Catalog.lookup? c.catalog.all table with
      | none => .error (.ofFault (.refused 1 ("no such table: " ++ table)))
      | some t => (t.select q).mapError .ofFault := by
  have hcall : call (read (.query (q.of table))) c = read (.query (q.of table)) c := if_pos ho
  rw [read_fst, hcall]
  simp only [read, perform, Catalog.run, Selection.of]
  cases Catalog.lookup? c.catalog.all table with
  | none => rfl
  | some t =>
    simp only [Table.run]
    cases t.select q <;> rfl

theorem read_within (c : Connection) (table : String) (q : Selection) (limit offset : Option UInt64) :
    (database.read (.query ((q.within limit offset).of table)) c).1 =
      (database.read (.query ((q.within none none).of table)) c).1.bind fun rows =>
        (Table.window limit offset rows).mapError .ofFault := by
  by_cases ho : c.isOpen
  · rw [read_select ho, read_select ho]
    cases Catalog.lookup? c.catalog.all table with
    | none => rfl
    | some t =>
      dsimp only
      rw [t.select_within]
      cases t.select (q.within none none) <;> rfl
  · have hclosed : ∀ q : Selection, (database.read (.query (q.of table)) c).1 = .error (.ofFault .poolClosed) := by
      intro q
      have hcall : call (read (.query (q.of table))) c = (.error .poolClosed, c) := if_neg ho
      rw [read_fst, hcall]
      rfl
    rw [hclosed, hclosed]
    rfl

theorem isWindowed_connection (table : String) (q : Selection) (c : Connection) :
    database.IsWindowed table q c := by
  refine ⟨IsInteger, (database.read (.query ((q.within none none).of table)) c).1, by decide, ?_, ?_⟩
  · intro limit offset h
    rw [read_within]
    cases (database.read (.query ((q.within none none).of table)) c).1 with
    | error e => rfl
    | ok rows =>
      show (Table.window limit offset rows).mapError _ = _
      rw [Table.window_of_takesBoth h]
      rfl
  · intro limit offset found h
    rw [read_within] at h
    obtain ⟨rows, hrows, h⟩ := bind_eq_ok.1 h
    obtain ⟨rfl, htakes⟩ := Table.eq_of_window_eq_ok (mapError_eq_ok.1 h)
    exact ⟨⟨rows, hrows, rfl⟩, htakes⟩

end Connection

end Engine

/-! ## Two persons -/

namespace Samples

/-- The records of persons in the engine. -/
def personEngine : RecordStore Engine.Connection Unit (personType.Record Unit) where
  database := Engine.Connection.database
  schema := personType.schema fun _ => .null
  signals := none

/-- A database in memory in which two persons are stored. -/
def persons : Engine.Connection where
  path := Engine.Connection.memoryPath
  isOpen := true
  catalog := ⟨[], [{
    name := "person"
    columns := [
      ⟨"name", .text, .null, true, none⟩,
      ⟨"id", .numeric, .null, false, none⟩,
      ⟨"age", .numeric, .null, false, none⟩]
    uniques := [.rowNumber 1]
    clustered := none
    rows := [⟨1, [.text "Ada", .integer 1, .integer 36]⟩, ⟨2, [.text "Eve", .integer 2, .null]⟩] }]⟩
  changes := 1

def personTable : Engine.Table := persons.catalog.permanent.head (List.cons_ne_nil _ _)

/-- What is found among the persons, if it is known how they are sorted. -/
theorem find_persons {q : Selection} {keys : Engine.Table.SortPlaces} {rows : List Engine.Row}
    (hselect : personTable.select q =
      (Engine.Table.window q.limit q.offset (personTable.rows.mergeSort (Engine.Table.before keys))).map
        (List.map (personTable.project [0, 1, 2])))
    (hsort : personTable.rows.mergeSort (Engine.Table.before keys) = rows) : (personEngine.find q persons).1 =
      (((Engine.Table.window q.limit q.offset rows).map (List.map (personTable.project [0, 1, 2]))).mapError .ofFault).bind
        fun found => found.mapM personEngine.schema.ofRow := by
  have hread : (personEngine.database.read (.query (q.of personEngine.schema.table)) persons).1 =
      (personTable.select q).mapError .ofFault := Engine.Connection.read_select rfl "person" q
  rw [RecordStore.find_fst, hread, hselect, hsort]

/-- The names from the last to the first. -/
def backwards : Selection := .build [.orderBy "name" .descending]

theorem find_backwards :
    (personEngine.find backwards persons).1 = .ok [personOf "Eve" 2 none, personOf "Ada" 1 (some 36)] := by
  have hsort : personTable.rows.mergeSort (Engine.Table.before [(0, .descending)]) = personTable.rows.reverse :=
    mergeSort_pair _ _ _
  rw [find_persons rfl hsort]
  rfl

/-- No rows at all. -/
def nothing : Selection := .build [.limit 0]

theorem find_nothing : (personEngine.find nothing persons).1 = .ok [] :=
  rfl

theorem findOne_nothing : (personEngine.findOne nothing persons).1 = .ok (some (personOf "Ada" 1 (some 36))) := by
  have hsort : personTable.rows.mergeSort (Engine.Table.before []) = personTable.rows := mergeSort_pair _ _ _
  rw [RecordStore.findOne_fst, find_persons (q := nothing.within (some 1) nothing.offset) rfl hsort]
  rfl

end Samples

open Samples in
theorem RecordStore.findOne_backwards :
    (personEngine.findOne backwards persons).1 = .ok (some (personOf "Eve" 2 none)) :=
  (findOne_eq_head? (Engine.Connection.isWindowed_connection "person" backwards persons)).1 (by decide +kernel) _
    find_backwards

open Samples in
/-- With a limit of zero `find` finds nothing, not even what `findOne` finds. -/
theorem RecordStore.not_findOne_eq_head? :
    ¬∀ q c xs, (personEngine.find q c).1 = .ok xs → (personEngine.findOne q c).1 = .ok xs.head? := by
  intro h
  have hnone := h nothing persons [] find_nothing
  rw [findOne_nothing] at hnone
  cases hnone

end TypedStorage
