/-
Conditions on stored rows. A comparison with null holds of nothing, and neither does a filter whose operator
and operand do not fit. Patterns match without regard to the case of ASCII letters: a percent sign stands for
any characters, an underscore for one.
-/
import TypedStorage.Engine.Stored
import TypedStorage.Query.Filter

namespace TypedStorage.Engine

def matchesPattern : List Char → List Char → Bool
  | [], cs => cs.isEmpty
  | '%' :: p, [] => matchesPattern p []
  | '%' :: p, c :: cs => matchesPattern p (c :: cs) || matchesPattern ('%' :: p) cs
  | x :: p, c :: cs => (x = '_' || x.toLower = c.toLower) && matchesPattern p cs
  | _ :: _, [] => false
termination_by p cs => p.length + cs.length

/-- Patterns and what they are held against end at the first NUL. -/
def upToNul (cs : List Char) : List Char := cs.takeWhile (· ≠ '\x00')

/-- One comparison of a column's value with another value. -/
def compares (op : Operator) (affinity : Affinity) (cell other : Stored) : Bool :=
  if cell.isNull || other.isNull then false
  else
    let order := cell.compare (affinity.forComparison other)
    match op with
    | .equals | .inSet => order == .eq
    | .notEquals => order != .eq
    | .greaterThan => order == .gt
    | .lessThan => order == .lt
    | .like =>
      match cell.chars?, other.chars? with
      | some s, some p => matchesPattern (upToNul p) (upToNul s)
      | _, _ => false

/-- A condition on the cell of one column. -/
inductive CellTest where
  | never
  | anyOf (column : Nat) (op : Operator) (values : List Stored)

/-- The column that a test looks at. -/
def CellTest.column? : CellTest → Option Nat
  | .never => none
  | .anyOf column _ _ => some column

def CellTest.holds (affinities : List Affinity) (row : List Stored) : CellTest → Bool
  | .never => false
  | .anyOf column op values =>
    values.any (compares op (affinities.getD column .unchanged) (row.getD column .null))

/-- The test that a filter is, with the place of the column it names. -/
def CellTest.ofFilter? (column? : String → Option Nat) (f : Filter) : Option CellTest :=
  match f.operand with
  | .multiple [] => some .never
  | .multiple vs =>
    if f.operator.takesSeveral then (column? f.field).map fun i => .anyOf i f.operator (vs.map Stored.ofScalar)
    else some .never
  | .single v =>
    if f.operator.takesSeveral then some .never
    else (column? f.field).map fun i => .anyOf i f.operator [Stored.ofScalar v]

end TypedStorage.Engine
