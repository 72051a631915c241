/-
What queries do to one table. Names of columns are resolved before any row is looked at; a statement does all
of its work or none of it, and counts the rows that it wrote or that its condition matched. A table is never
left half changed, because each statement gives back a new one.
-/
import TypedStorage.Engine.Visit
import TypedStorage.Query.Compile

namespace TypedStorage.Engine

/-- What a statement has done: the rows it found, if it looks for any, or the number it affected. -/
inductive Effect where
  | found (rows : List ValueMap)
  | affected (count : Nat)

namespace Table

/-! ## Reading -/

def tests (t : Table) (filters : List Filter) : Run (List CellTest) :=
  filters.mapM fun f =>
    match CellTest.ofFilter? t.place? f with
    | some test => .ok test
    | none => refuse 1 ("no such column: " ++ f.field)

/-- The columns that a list of fields stands for; none and `*` stand for all. -/
def fieldPlaces (t : Table) (fields : List String) : Run (List Nat) := do
  let all := List.range t.columns.length
  if fields.isEmpty then return all
  let parts ← fields.mapM fun f => if f = "*" then .ok all else (t.place f).map fun i => [i]
  return parts.flatten

/-- One row before another by these columns, each up or down. -/
def before (keys : SortPlaces) (a b : Row) : Bool :=
  let order := keys.foldl (fun (o : Ordering) (i, direction) =>
    let here := (a.cells.getD i .null).compare (b.cells.getD i .null)
    o.then (if direction = .ascending then here else here.swap)) .eq
  order != .gt

/-- Limits and offsets are integers of 64 bits; a limit of zero asks for nothing and looks at no offset. -/
def window {α : Type} (limit offset : Option UInt64) (rows : List α) : Run (List α) :=
  let tooLarge (n : Option UInt64) : Bool := 0x8000000000000000 ≤ (n.getD 0).toNat
  if limit = some 0 then .ok []
  else if tooLarge limit || tooLarge offset then mismatch
  else
    let rest := rows.drop (offset.getD 0).toNat
    .ok (match limit with
      | some n => rest.take n.toNat
      | none => rest)

def project (t : Table) (places : List Nat) (row : Row) : ValueMap :=
  .ofPairs (places.map fun i => (((t.columns[i]?).map Column.name).getD "", (row.cells.getD i .null).toScalar))

def select (t : Table) (s : Selection) : Run (List ValueMap) := do
  let places ← t.fieldPlaces s.fields
  let tests ← t.tests s.filters
  let keys ← s.sort.mapM fun k => (t.place k.field).map fun i => (i, k.direction)
  let asked := places ++ tests.filterMap (·.column?) ++ keys.map (·.1)
  let found := (t.visited tests (firstOfEach keys) asked).filter (t.passes tests)
  let rows ← window s.limit s.offset (found.mergeSort (before keys))
  return rows.map (t.project places)

/-! ## Writing -/

/-- The columns that a row is written into, as its statement names them. -/
def writtenPlaces (t : Table) (table : String) (columns : List String) : Run (List Nat) :=
  columns.mapM fun c =>
    match t.place? c with
    | some i => .ok i
    | none => refuse 1 ("table " ++ table ++ " has no column named " ++ c)

def cellsOf (row : ValueMap) (columns : List String) : List Stored :=
  columns.map fun c => Stored.ofScalar ((row.get? c).getD .null)

def insert (t : Table) (table : String) (columns : List String) (rows : List ValueMap) : Run Table := do
  let places ← t.writtenPlaces table columns
  rows.foldlM (fun t row => t.insertRow (places.zip (cellsOf row columns))) t

/-- Of two values for one column the last counts. -/
def update (t : Table) (values : ValueMap) (filters : List Filter) : Run (Table × Nat) := do
  let places ← values.keys.mapM t.place
  let tests ← t.tests filters
  let matched := t.passing tests
  let t ← matched.foldlM (fun t row => t.changeRow row (places.zip (values.values.map Stored.ofScalar)).reverse) t
  return (t, matched.length)

def delete (t : Table) (filters : List Filter) : Run (Table × Nat) := do
  let tests ← t.tests filters
  let matched := t.passing tests
  return ({ t with rows := t.rows.filter fun r => !matched.contains r }, matched.length)

/-- The key that the named columns are, each named once and in any order. -/
def conflictKey? (t : Table) (columns : List String) : Run Unique := do
  let places ← columns.mapM t.place
  match t.uniques.find? fun u => u.places.length = places.length && u.places.all places.contains with
  | some u => .ok u
  | none => refuse 1 "ON CONFLICT clause does not match any PRIMARY KEY or UNIQUE constraint"

/-- Inserts a row, or where another has the same key, gives that row the new row's values in some columns. -/
def upsert (t : Table) (table : String) (values : ValueMap) (conflict : List String)
    (refresh : Option (List String)) : Run (Table × Nat) := do
  let places ← t.writtenPlaces table values.keys
  let cells := places.zip (values.values.map Stored.ofScalar)
  if conflict.isEmpty then
    let row ← t.newRow cells
    match t.obstacle? t.uniques row with
    | none => return (t.put row, 1)
    | some (.clash _ _) => return (t, 0)
    | some (.fault f) => .error f
  let key ← t.conflictKey? conflict
  let refreshed ← (Compiled.refreshed values conflict refresh).mapM fun c =>
    match t.place? c with
    | some i => .ok i
    | none => refuse 1 ("no such column: excluded." ++ c)
  let row ← t.newRow cells
  match t.obstacle? (key :: t.uniques) row with
  | none => return (t.put row, 1)
  | some (.fault f) => .error f
  | some (.clash u other) =>
    if u ≠ key then .error (t.uniqueFault u)
    else if refreshed.isEmpty then return (t, 0)
    else return (← t.changeRow other (refreshed.map fun i => (i, row.cells.getD i .null)).reverse, 1)

/-- The table after an action on it, and what the action has done. -/
def run (t : Table) (table : String) : Action → Run (Table × Effect)
  | .select s => return (t, .found (← t.select s))
  | .insert values => return (← t.insert table values.keys [values], .affected 1)
  | .insertMany rows => return (← t.insert table (columnUnion rows) rows, .affected rows.length)
  | .update values filters => do
    let (t, n) ← t.update values filters
    return (t, .affected n)
  | .delete filters => do
    let (t, n) ← t.delete filters
    return (t, .affected n)
  | .deleteMany field ids => do
    let (t, n) ← t.delete [.inSet field ids]
    return (t, .affected n)
  | .upsert values conflict refresh => do
    let (t, n) ← t.upsert table values conflict refresh
    return (t, .affected n)

end Table

end TypedStorage.Engine
