/-
Tables from their definitions. Defaults are what their literals say: a number without a point is an integer
where it is in range, and the names of NaN and infinity are plain words. A definition that would make no table
is refused, at the first fault from left to right.
-/
import TypedStorage.Engine.Table

namespace TypedStorage.Engine

/-- What the literal of a default stands for, a real number for the nearest double; minus infinity is no literal. -/
def defaultValue? : Scalar → Option Stored
  | .real .nan => some (.text "NaN")
  | .real (.infinite negative) => if negative then none else some (.text "inf")
  | .real x =>
    match Text.readInt? x.textChars with
    | some i => if -0x8000000000000000 ≤ i ∧ i < 0x8000000000000000 then some (.integer (Int64.ofInt i)) else some (.real x)
    | none => some (.real x)
  | s => some (Stored.ofScalar s)

def readDefault (s : Scalar) : Run Stored :=
  match defaultValue? s with
  | some v => .ok v
  | none => refuse 1 "near \"inf\": syntax error"

namespace Table

def isNumberColumn (d : TableDefinition) (c : ColumnDefinition) : Bool :=
  c.isPrimaryKey && !d.isComposite && !d.options.withoutRowId && sameName c.type.keyword "INTEGER"

def column (d : TableDefinition) (c : ColumnDefinition) : Run Column := do
  let default ← match c.default with
    | none => pure .null
    | some s => readDefault s
  let strict := d.options.strict
  let affinity := if strict && c.type = .any then .unchanged else Affinity.ofTypeName c.type.keyword
  let isKey := c.isPrimaryKey && (strict || d.options.withoutRowId)
  return ⟨c.name, affinity, default, c.isNotNull || isKey, if strict then some c.type else none⟩

/-- The columns from left to right; a name may not come twice. -/
def columnsFrom (d : TableDefinition) : List String → List ColumnDefinition → Run (List Column)
  | _, [] => .ok []
  | seen, c :: rest => do
    if seen.any (sameName c.name) then refuse 1 ("duplicate column name: " ++ c.name)
    let column ← column d c
    return column :: (← columnsFrom d (c.name :: seen) rest)

/-- The keys that the columns declare one after the other, and the key of several columns last. -/
def declaredKeys (d : TableDefinition) : List Unique :=
  let places := List.range d.columns.length
  let ofColumn (i : Nat) : List Unique :=
    match d.columns[i]? with
    | none => []
    | some c =>
      (if c.isPrimaryKey && !d.isComposite && !isNumberColumn d c then [.columns [i] true] else [])
        ++ (if c.isUnique then [.columns [i] false] else [])
  let keyPlaces := places.filter fun i => ((d.columns[i]?).map (·.isPrimaryKey)).getD false
  places.flatMap ofColumn ++ (if d.isComposite then [.columns keyPlaces true] else [])

/-- The keys without those that repeat an earlier one. -/
def distinctKeys (keys : List Unique) : List Unique :=
  keys.foldl (fun kept u => if kept.any (·.places = u.places) then kept else kept ++ [u]) []

def noColumns {α : Type} : Run α := refuse 1 "near \")\": syntax error"

/-- What is looked at of a definition whose table is there already. -/
def checkReadable (d : TableDefinition) : Run Unit := do
  let _ ← (d.columns.filterMap (·.default)).mapM readDefault
  if d.columns.isEmpty then noColumns

def ofDefinition (d : TableDefinition) : Run Table := do
  let columns ← columnsFrom d [] d.columns
  if columns.isEmpty then noColumns
  if d.options.withoutRowId && d.primaryKey.isEmpty then refuse 1 ("PRIMARY KEY missing on table " ++ d.name)
  let places := List.range d.columns.length
  let isKey (i : Nat) : Bool := ((d.columns[i]?).map (·.isPrimaryKey)).getD false
  let number := (places.find? fun i => ((d.columns[i]?).map (isNumberColumn d)).getD false).map Unique.rowNumber
  let clustered := if d.options.withoutRowId then some (places.filter isKey) else none
  return ⟨d.name, columns, number.toList ++ (distinctKeys (declaredKeys d)).reverse, clustered, []⟩

end Table

end TypedStorage.Engine
