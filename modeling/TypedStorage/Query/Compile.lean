/-
The text of a query, with a question mark for every scalar, and the scalars in the order of their marks.
Columns of written rows come in increasing order of names. Inserting no rows or rows without any column, and
updating or upserting no values, compile to no statement at all, whose text is empty.
-/
import TypedStorage.Query.Statement

namespace TypedStorage

structure Compiled where
  sql : String
  args : List Scalar

namespace Compiled

def noop : Compiled := ⟨"", []⟩

def isNoop (c : Compiled) : Bool := c.sql = ""

end Compiled

namespace Clause

/-- The condition that holds of no row. -/
def never : String := "1=0"

def commas (names : List String) : String := ", ".intercalate names

def placeholders (count : Nat) : String := commas (List.replicate count "?")

/-- The clauses that are there, with single spaces between them. -/
def join (clauses : List String) : String := " ".intercalate (clauses.filter (· != ""))

/-- One condition and the scalars it binds. -/
def filter (f : Filter) : Compiled :=
  match f.operand with
  | .multiple [] => ⟨never, []⟩
  | .multiple vs =>
    if f.operator.takesSeveral then ⟨f.field ++ " IN (" ++ placeholders vs.length ++ ")", vs⟩ else ⟨never, []⟩
  | .single v => if f.operator.takesSeveral then ⟨never, []⟩ else ⟨f.field ++ " " ++ f.operator.sql ++ " ?", [v]⟩

/-- All conditions at once; nothing if there are none. -/
def whereAll (filters : List Filter) : Compiled :=
  if filters.isEmpty then ⟨"", []⟩
  else ⟨"WHERE " ++ " AND ".intercalate (filters.map fun f => (filter f).sql), filters.flatMap fun f => (filter f).args⟩

def sortKey (k : SortKey) : String := k.field ++ " " ++ k.direction.sql

def orderBy (sort : List SortKey) : String :=
  if sort.isEmpty then "" else "ORDER BY " ++ commas (sort.map sortKey)

/-- An offset needs a limit in front of it; −1 is no limit. -/
def limit : Option UInt64 → Option UInt64 → String
  | some l, some o => "LIMIT " ++ toString l.toNat ++ " OFFSET " ++ toString o.toNat
  | some l, none => "LIMIT " ++ toString l.toNat
  | none, some o => "LIMIT -1 OFFSET " ++ toString o.toNat
  | none, none => ""

def fields (names : List String) : String := if names.isEmpty then "*" else commas names

end Clause

/-- The columns that any of the rows has, in order. -/
def columnUnion (rows : List ValueMap) : List String :=
  (KeyMap.ofPairs ((rows.flatMap KeyMap.keys).map fun c => (c, ()))).keys

namespace Compiled

open Clause

def select (table : String) (s : Selection) : Compiled :=
  let conditions := whereAll s.filters
  ⟨join ["SELECT " ++ fields s.fields ++ " FROM " ++ table, conditions.sql, orderBy s.sort, limit s.limit s.offset],
    conditions.args⟩

def insert (table : String) (values : ValueMap) : Compiled :=
  if values.isEmpty then ⟨"INSERT INTO " ++ table ++ " DEFAULT VALUES", []⟩
  else ⟨"INSERT INTO " ++ table ++ " (" ++ commas values.keys ++ ") VALUES ("
    ++ placeholders values.keys.length ++ ")", values.values⟩

/-- One group of marks a row; a row that lacks a column has null in it. -/
def insertMany (table : String) (rows : List ValueMap) : Compiled :=
  let columns := columnUnion rows
  if columns.isEmpty then noop
  else
    let group := "(" ++ placeholders columns.length ++ ")"
    ⟨"INSERT INTO " ++ table ++ " (" ++ commas columns ++ ") VALUES " ++ commas (rows.map fun _ => group),
      rows.flatMap fun row => columns.map fun c => (row.get? c).getD .null⟩

def update (table : String) (values : ValueMap) (filters : List Filter) : Compiled :=
  if values.isEmpty then noop
  else
    let conditions := whereAll filters
    ⟨join ["UPDATE " ++ table ++ " SET " ++ commas (values.keys.map (· ++ " = ?")), conditions.sql],
      values.values ++ conditions.args⟩

def delete (table : String) (filters : List Filter) : Compiled :=
  let conditions := whereAll filters
  ⟨join ["DELETE FROM " ++ table, conditions.sql], conditions.args⟩

def deleteMany (table field : String) (ids : List Scalar) : Compiled := delete table [.inSet field ids]

/-- The columns that an upsert refreshes when none are given: all but those that may conflict. -/
def refreshed (values : ValueMap) (conflict : List String) : Option (List String) → List String
  | some columns => columns
  | none => values.keys.filter fun c => !conflict.contains c

def upsert (table : String) (values : ValueMap) (conflict : List String) (refresh : Option (List String)) :
    Compiled :=
  if values.isEmpty then noop
  else
    let insertion := insert table values
    if conflict.isEmpty then ⟨insertion.sql ++ " ON CONFLICT DO NOTHING", insertion.args⟩
    else
      let columns := refreshed values conflict refresh
      let resolution :=
        if columns.isEmpty then "DO NOTHING"
        else "DO UPDATE SET " ++ commas (columns.map fun c => c ++ " = excluded." ++ c)
      ⟨insertion.sql ++ " ON CONFLICT (" ++ commas conflict ++ ") " ++ resolution, insertion.args⟩

end Compiled

def Query.compile (q : Query) : Compiled :=
  match q.action with
  | .select s => .select q.table s
  | .insert values => .insert q.table values
  | .insertMany rows => .insertMany q.table rows
  | .update values filters => .update q.table values filters
  | .delete filters => .delete q.table filters
  | .deleteMany field ids => .deleteMany q.table field ids
  | .upsert values conflict refresh => .upsert q.table values conflict refresh

end TypedStorage
