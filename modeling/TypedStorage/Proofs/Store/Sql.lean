/-
What statements ordinarily mean to a table, as far as record stores rely on it. A table is a collection of rows; a
statement does all of its work or none of it, and what it leaves behind must keep the rules of the table. Values
are kept in the class they were bound in.

What engines differ in is left to a `Dialect`: which names they take for a column, how they compare values other
than keys, and how they sort. So is the order in which an unsorted selection finds the rows. `RunsTable` says of
a database that this is how it runs commands; a command that is no statement of this kind, is about another table,
or writes rows that do not have each column of the table once, is not spoken of.
-/
import TypedStorage.Store.Database
import TypedStorage.Engine.Stored
import TypedStorage.Proofs.Query.Reader

namespace TypedStorage

namespace Statement

/-- The table that a statement is about. -/
def table? : Statement → Option String
  | .noop => none
  | .select table _ _ _ _ _ | .insertDefaults table | .insert table _ _ | .update table _ _ | .delete table _
  | .upsert table _ _ _ _ => some table

def isSelect : Statement → Bool
  | .select _ _ _ _ _ _ => true
  | _ => false

end Statement

namespace Sql

open Engine (Stored)

/-- What a row holds in each column, and null elsewhere. -/
abbrev Row := String → Stored

structure Table where
  name : String
  columns : List String
  notNull : List String
  /-- The columns that no two rows have all in common, nulls apart. -/
  uniques : List (List String)

/-- The table that a definition describes. -/
def Table.ofDefinition (d : TableDefinition) : Table where
  name := d.name
  columns := d.columns.map (·.name)
  notNull := (d.columns.filter fun c => c.isNotNull || c.isPrimaryKey).map (·.name)
  uniques := (d.columns.filter (·.isPrimaryKey)).map (·.name) :: (d.columns.filter (·.isUnique)).map fun c => [c.name]

/-- What engines differ in. -/
structure Dialect where
  /-- The column that a name stands for. -/
  column? : String → Option String
  /-- A comparison of the value in a column with another. -/
  holds : String → Comparison → Stored → Stored → Bool
  before : List SortKey → Row → Row → Bool

/-- All dialects agree on the table's own names, and on when two texts or two integers are the same key. -/
structure Dialect.Ordinary (d : Dialect) (t : Table) (key : String) : Prop where
  column?_self : ∀ c ∈ t.columns, d.column? c = some c
  same_text : ∀ a b, d.holds key .equals (.text a) (.text b) = decide (a = b)
  same_integer : ∀ i j, d.holds key .equals (.integer i) (.integer j) = decide (i = j)

variable (d : Dialect) (t : Table)

/-! ## Conditions -/

/-- The test that a condition is; none if it names no column. -/
def test? : Condition → Option (Row → Bool)
  | .never => some fun _ => false
  | .compare field op v => (d.column? field).map fun c row => d.holds c op (row c) (.ofScalar v)
  | .among field vs => (d.column? field).map fun c row => vs.any fun v => d.holds c .equals (row c) (.ofScalar v)

def tests? (conditions : List Condition) : Option (Row → Bool) :=
  (conditions.mapM (test? d)).map fun tests row => tests.all (· row)

/-! ## Selections -/

/-- The columns that are asked for. -/
def asked? (fields : List String) : Option (List String) :=
  (fields.mapM fun f => if f = "*" then some t.columns else (d.column? f).map ([·])).map List.flatten

def window {α : Type} (limit offset : Option UInt64) (rows : List α) : List α :=
  let rest := rows.drop (offset.getD 0).toNat
  match limit with
  | some n => rest.take n.toNat
  | none => rest

/-- The values that a row shows in these columns. -/
def shown (columns : List String) (row : Row) : ValueMap := .ofPairs (columns.map fun c => (c, (row c).toScalar))

/-- What a selection finds in rows that are visited in this order. -/
def select? (visited : List Row) : Statement → Option (List ValueMap)
  | .select _ fields conditions sort limit offset => do
    let columns ← asked? d t fields
    let keep ← tests? d conditions
    let keys ← sort.mapM fun k => (d.column? k.field).map fun c => ⟨c, k.direction⟩
    return (window limit offset ((visited.filter keep).mergeSort (d.before keys))).map (shown columns)
  | _ => none

/-! ## Changes -/

/-- Two rows have a key in common. -/
def clashes (unique : List String) (a b : Row) : Bool :=
  unique.all fun c => !(a c).isNull && d.holds c .equals (a c) (b c)

/-- The rows keep the rules of the table. -/
def Keeps (rows : List Row) : Prop :=
  (∀ row ∈ rows, ∀ c ∈ t.notNull, (row c).isNull = false)
    ∧ rows.Pairwise fun a b => ∀ u ∈ t.uniques, clashes d u a b = false

instance (rows : List Row) : Decidable (Keeps d t rows) := inferInstanceAs (Decidable (_ ∧ _))

/-- A change is made if what it leaves keeps the rules. -/
def checked (rows : List Row) (count : Nat) : Option (List Row × Nat) := if Keeps d t rows then some (rows, count) else none

/-- A new row with these values in these columns. -/
def newRow (columns : List String) (values : List Scalar) : Row := fun c =>
  ((columns.zip values).lookup c).elim .null Stored.ofScalar

/-- A row with new values in some columns. -/
def assigned (values : List (String × Scalar)) (row : Row) : Row := fun c =>
  match values.lookup c with
  | some v => .ofScalar v
  | none => row c

/-- A row with the values of another in some columns. -/
def refreshed (columns : List String) (source row : Row) : Row := fun c => if c ∈ columns then source c else row c

/-- The rows that a statement writes have each column of the table once, and it changes no column twice. -/
def IsRegular : Statement → Prop
  | .insert _ columns rows => columns.Nodup ∧ (∀ c, c ∈ columns ↔ c ∈ t.columns) ∧ ∀ row ∈ rows, row.length = columns.length
  | .update _ assignments _ => (assignments.map (·.1)).Nodup ∧ ∀ p ∈ assignments, p.1 ∈ t.columns
  | .delete _ _ => True
  | .upsert _ columns values _ refresh =>
    columns.Nodup ∧ (∀ c, c ∈ columns ↔ c ∈ t.columns) ∧ values.length = columns.length ∧ ∀ c ∈ refresh, c ∈ t.columns
  | _ => False

/-- The rows after a regular statement, and how many it wrote or found; none if it is refused. -/
def change? (rows : List Row) : Statement → Option (List Row × Nat)
  | .insert _ columns values => checked d t (rows ++ values.map (newRow columns)) values.length
  | .update _ assignments conditions => do
    let keep ← tests? d conditions
    checked d t (rows.map fun row => if keep row then assigned assignments row else row) (rows.filter keep).length
  | .delete _ conditions => do
    let keep ← tests? d conditions
    return (rows.filter fun row => !keep row, (rows.filter keep).length)
  | .upsert _ columns values conflict refresh =>
    let row := newRow columns values
    let meets (u : List String) (other : Row) : Bool := clashes d u row other
    if conflict = [] then
      if rows.any fun other => t.uniques.any (meets · other) then some (rows, 0) else checked d t (rows ++ [row]) 1
    else if conflict ∈ t.uniques then
      if rows.any (meets conflict) then
        if refresh = [] then some (rows, 0)
        else checked d t (rows.map fun other => if meets conflict other then refreshed refresh row other else other) 1
      else checked d t (rows ++ [row]) 1
    else none
  | _ => none

/-! ## Engines -/

/-- The database runs statements about the table in the ordinary way; `rows` is what it holds in a state. -/
structure RunsTable {ρ : Type} (db : Database ρ) (rows : ρ → List Row) : Prop where
  /-- A change is made, or is refused with an error and nothing is changed. -/
  write : ∀ (c : Command) (s : Statement), c.compile.statement? = some s → s.table? = some t.name → IsRegular t s →
    ∀ state, match change? d t (rows state) s with
      | some (after, count) => ∃ state', db.write c state = (.ok count, state') ∧ (rows state').Perm after
      | none => ∃ e state', db.write c state = (.error e, state') ∧ (rows state').Perm (rows state)
  /-- A selection visits the rows in any order, and changes none. -/
  read : ∀ (c : Command) (s : Statement), c.compile.statement? = some s → s.table? = some t.name → s.isSelect →
    ∀ state, ∃ visited state', visited.Perm (rows state) ∧ (rows state').Perm (rows state) ∧
      match select? d t visited s with
      | some found => db.read c state = (.ok found, state')
      | none => ∃ e, db.read c state = (.error e, state')

end Sql

end TypedStorage
