/-
The order in which a selection visits the rows of a table. Where its conditions bound the first column of a key,
rows are found through that key and in its order; else through the key by which they are to be sorted, or one that
holds all columns that are asked for. Rows that the sort does not tell apart come out in this order. How many rows are
asked for makes no difference.
-/
import TypedStorage.Engine.Table

namespace TypedStorage.Engine

/-- How closely conditions bound the rows of a key. -/
inductive Reach where
  | row | list | interval | halfLine | everything
  deriving DecidableEq

namespace Reach

/-- From the closest to the widest. -/
def all : List Reach := [.row, .list, .interval, .halfLine]

/-- What the conditions say of a key with these columns. -/
def ofTests (tests : List CellTest) (places : List Nat) : Reach :=
  let bounds (op : Operator) (i : Nat) : Bool := tests.any fun
    | .anyOf column o _ => column = i && o = op
    | .never => false
  let isPinned (i : Nat) : Bool := bounds .equals i || tests.any fun
    | .anyOf column .inSet [_] => column = i
    | _ => false
  match places with
  | [] => .everything
  | i :: rest =>
    if (i :: rest).all isPinned then .row
    else if isPinned i || bounds .inSet i then .list
    else if bounds .lessThan i && bounds .greaterThan i then .interval
    else if bounds .lessThan i || bounds .greaterThan i then .halfLine
    else .everything

end Reach

namespace Table

abbrev SortPlaces := List (Nat × Direction)

/-- The sort without columns that it names again, which tell no more rows apart. -/
def firstOfEach (sort : SortPlaces) : SortPlaces :=
  sort.foldl (fun kept k => if kept.any (·.1 = k.1) then kept else kept ++ [k]) []

/-- The key lists rows as the sort wants them, perhaps the other way round. -/
def servesSort (sort : SortPlaces) (u : Unique) : Bool :=
  !sort.isEmpty && (sort.map (·.1)).isPrefixOf u.places
    && (sort.all (·.2 = .ascending) || sort.all (·.2 = .descending))

/-- The key by which the rows are visited, if it is any. -/
def visitKey? (t : Table) (tests : List CellTest) (sort : SortPlaces) (asked : List Nat) : Option Unique :=
  let sorting := t.uniques.find? (servesSort sort)
  let isNarrow (u : Unique) : Bool :=
    let held := (u.places ++ t.clustered.getD []).eraseDups
    asked.all held.contains && held.length < t.columns.length && t.clustered ≠ some u.places
  let reaching := Reach.all.findSome? fun r =>
    (t.uniques.find? fun u => Reach.ofTests tests u.places = r).map fun u => (r, u)
  match reaching with
  | some (.halfLine, u) => sorting.or (some u)
  | some (_, u) => some u
  | none => sorting.or (t.uniques.find? isNarrow)

/-- All rows in the order in which they are visited. -/
def visited (t : Table) (tests : List CellTest) (sort : SortPlaces) (asked : List Nat) : List Row :=
  match t.visitKey? tests sort asked with
  | none => t.scan
  | some u =>
    let rows := t.scan.mergeSort fun a b => compareCells u.places a b != .gt
    if servesSort sort u && sort.all (·.2 = .descending) then rows.reverse else rows

end Table

end TypedStorage.Engine
