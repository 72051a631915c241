/-
Tables with their rows. Each row has a number, which a column of type `INTEGER` that is the only key shows;
without one given, a new row takes the number after the greatest. A row goes in only if it keeps the rules:
no null where none may be, no number that another row has, in a strict table values of the column's class, and
no other key that another row has. The rules are looked at in that order, and keys in the reverse of the order in
which the table declares them.
Nulls are never equal, so a key that holds one is nobody else's.
-/
import TypedStorage.Engine.Condition
import TypedStorage.Query.Statement
import TypedStorage.Store.Error

namespace TypedStorage.Engine

structure Column where
  name : String
  affinity : Affinity
  default : Stored
  isNotNull : Bool
  /-- The type of the column if the table is strict. -/
  strictType : Option ColumnType

/-- What no two rows may have in common. -/
inductive Unique where
  | rowNumber (column : Nat)
  | columns (places : List Nat) (isPrimary : Bool)
  deriving DecidableEq

structure Row where
  number : Int64
  cells : List Stored
  deriving DecidableEq

structure Table where
  name : String
  columns : List Column
  uniques : List Unique
  /-- The key that orders the rows where the table has no row numbers of its own. -/
  clustered : Option (List Nat)
  rows : List Row

/-- A fault with its result code. -/
abbrev Run (α : Type) := Except DatabaseFault α

def refuse {α : Type} (code : Nat) (text : String) : Run α := .error (.refused code text)

def mismatch {α : Type} : Run α := refuse 20 "datatype mismatch"

namespace Unique

def places : Unique → List Nat
  | .rowNumber column => [column]
  | .columns places _ => places

def isNumber : Unique → Bool
  | .rowNumber _ => true
  | .columns _ _ => false

/-- Two rows agree on the columns, none of them null. -/
def clashes (u : Unique) (a b : Row) : Bool :=
  match u with
  | .rowNumber _ => a.number = b.number
  | .columns places _ => places.all fun i =>
      let v := a.cells.getD i .null
      !v.isNull && v.compare (b.cells.getD i .null) == .eq

def code : Unique → Nat
  | .rowNumber _ => 1555
  | .columns _ isPrimary => if isPrimary then 1555 else 2067

end Unique

namespace Table

def sameName (a b : String) : Bool := Identifier.upper a = Identifier.upper b

def place? (t : Table) (name : String) : Option Nat := t.columns.findIdx? fun c => sameName c.name name

def place (t : Table) (name : String) : Run Nat :=
  match t.place? name with
  | some i => .ok i
  | none => refuse 1 ("no such column: " ++ name)

/-- The column that shows the row's number. -/
def numberColumn (t : Table) : Option Nat :=
  t.uniques.findSome? fun
    | .rowNumber i => some i
    | .columns _ _ => none

def label (t : Table) (i : Nat) : String := t.name ++ "." ++ ((t.columns[i]?).map (·.name)).getD ""

def affinities (t : Table) : List Affinity := t.columns.map (·.affinity)

/-! ## Rules for one row -/

def notNullFault? (t : Table) (row : Row) : Option DatabaseFault :=
  (t.columns.zipIdx.find? fun (c, i) =>
    c.isNotNull && t.numberColumn != some i && (row.cells.getD i .null).isNull).map
    fun (_, i) => .refused 1299 ("NOT NULL constraint failed: " ++ t.label i)

/-- A strict column takes its own class only, or anything. -/
def suits : ColumnType → Stored → Bool
  | .integer, .integer _ | .real, .real _ | .text, .text _ | .blob, .blob _ => true
  | .any, _ => true
  | _, .null => true
  | _, _ => false

def typeFault? (t : Table) (row : Row) : Option DatabaseFault :=
  t.columns.zipIdx.findSome? fun (c, i) => do
    let type ← c.strictType
    let v := row.cells.getD i .null
    if suits type v then none
    else some (.refused 3091
      ("cannot store " ++ v.className ++ " value in " ++ type.keyword ++ " column " ++ t.label i))

/-- What keeps a row out: a fault of its own, or a row with the same key. -/
inductive Obstacle where
  | fault (f : DatabaseFault)
  | clash (u : Unique) (other : Row)

/-- The first of these keys that the row has in common with a row of the table. -/
def clash? (t : Table) (uniques : List Unique) (row : Row) : Option Obstacle :=
  uniques.findSome? fun u => (t.rows.find? (u.clashes row)).map (.clash u)

/-- The first rule that the row breaks, with the keys in this order. A row number in front is looked at before the
classes of the values. -/
def obstacle? (t : Table) (uniques : List Unique) (row : Row) : Option Obstacle :=
  ((t.notNullFault? row).map .fault)
    |>.or (t.clash? (uniques.takeWhile (·.isNumber)) row)
    |>.or ((t.typeFault? row).map .fault)
    |>.or (t.clash? (uniques.dropWhile (·.isNumber)) row)

def uniqueFault (t : Table) (u : Unique) : DatabaseFault :=
  .refused u.code ("UNIQUE constraint failed: " ++ ", ".intercalate (u.places.map t.label))

def Obstacle.toFault (t : Table) : Obstacle → DatabaseFault
  | .fault f => f
  | .clash u _ => t.uniqueFault u

/-! ## Writing rows -/

/-- The number after the greatest, or a free one if there is no number after it. -/
def nextNumber (t : Table) : Int64 :=
  let numbers := t.rows.map (·.number.toInt)
  match numbers.max? with
  | none => 1
  | some n =>
    if n < 0x8000000000000000 - 1 then Int64.ofInt (n + 1)
    else
      let free := (List.range (t.rows.length + 1)).find? fun (k : Nat) => !numbers.contains (Int.ofNat k + 1)
      Int64.ofInt (Int.ofNat (free.getD 0) + 1)

/-- The number that a value in the number column gives; null leaves it open. -/
def numberOf (v : Stored) : Run (Option Int64) :=
  match v.asNumber with
  | .null => .ok none
  | .integer i => .ok (some i)
  | _ => mismatch

/-- These values in their columns, all others as they are, each in the class that suits its column. -/
def assign (t : Table) (cells : List Stored) (values : List (Nat × Stored)) : List Stored :=
  t.columns.mapIdx fun i c => c.affinity.apply ((values.lookup i).getD (cells.getD i .null))

/-- The cells with the row's number shown where it shows. -/
def numbered (t : Table) (number : Int64) (cells : List Stored) : Row :=
  match t.numberColumn with
  | some i => ⟨number, cells.set i (.integer number)⟩
  | none => ⟨number, cells⟩

/-- Puts a row among the others in the order of their numbers. -/
def put (t : Table) (row : Row) : Table :=
  let before := t.rows.takeWhile fun r => r.number.toInt < row.number.toInt
  { t with rows := before ++ row :: t.rows.drop before.length }

/-- The row that these values make, with defaults where there is none. Of two values for one column the first
counts, but the last for the row's number. -/
def newRow (t : Table) (values : List (Nat × Stored)) : Run Row := do
  let cells := t.assign (t.columns.map (·.default)) values
  let number ← match t.numberColumn with
    | some i => numberOf ((values.reverse.lookup i).getD .null)
    | none => pure none
  return t.numbered (number.getD t.nextNumber) cells

def insertRow (t : Table) (values : List (Nat × Stored)) : Run Table := do
  let row ← t.newRow values
  match t.obstacle? t.uniques row with
  | some obstacle => .error (obstacle.toFault t)
  | none => .ok (t.put row)

/-- The table with these values in one of its rows. -/
def changeRow (t : Table) (old : Row) (values : List (Nat × Stored)) : Run Table := do
  let cells := t.assign old.cells values
  let number ← match t.numberColumn.bind fun i => values.lookup i with
    | none => pure old.number
    | some v => match ← numberOf v with
      | some n => pure n
      | none => mismatch
  let row := t.numbered number cells
  let rest := { t with rows := t.rows.filter (· ≠ old) }
  match rest.obstacle? t.uniques row with
  | some obstacle => .error (obstacle.toFault t)
  | none => .ok (rest.put row)

/-! ## Reading rows -/

def compareCells (places : List Nat) (a b : Row) : Ordering :=
  places.foldl (fun o i => o.then ((a.cells.getD i .null).compare (b.cells.getD i .null))) .eq

/-- The rows in the order in which the table keeps them. -/
def scan (t : Table) : List Row :=
  match t.clustered with
  | some places => t.rows.mergeSort fun a b => compareCells places a b != .gt
  | none => t.rows

def passes (t : Table) (tests : List CellTest) (row : Row) : Bool := tests.all (·.holds t.affinities row.cells)

/-- The rows that pass all tests. -/
def passing (t : Table) (tests : List CellTest) : List Row := t.scan.filter (t.passes tests)

end Table

end TypedStorage.Engine
