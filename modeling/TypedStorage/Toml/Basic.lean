/-
TOML documents as trees. A table remembers how it came to be, which decides who may still add to it: its own
header may come once, after headers of tables below it; dotted keys add to tables that dotted keys have made; a
table in braces is closed. Numbers and times are known by their form only.
-/
namespace TypedStorage

namespace Toml

/-- How a table came to be. -/
inductive Origin where
  /-- A header names it, or it is the whole document. -/
  | header
  /-- Headers of tables below it pass through it. -/
  | passed
  /-- Dotted keys pass through it. -/
  | dotted
  | braces
  deriving DecidableEq

end Toml

inductive Toml where
  | string (s : String)
  | boolean (b : Bool)
  /-- A number; an integer may need more than 64 bits. -/
  | number (fits : Bool)
  | time (text : String)
  | array (items : List Toml)
  /-- Tables under one repeated header. -/
  | tables (items : List Toml)
  | table (origin : Toml.Origin) (members : List (String × Toml))

namespace Toml

abbrev Members := List (String × Toml)

/-- A change of the members of a table, which may know how the table came to be. -/
abbrev Change := Origin → Members → Option (Origin × Members)

/-- The members with another value under a name that is there. -/
def replace (name : String) (value : Toml) (members : Members) : Members :=
  members.map fun p => if p.1 = name then (name, value) else p

/-- Changes the table at the end of a path; tables that are missing on the way are made. -/
def enter (dotted : Bool) (change : Change) : List String → Change
  | [], origin, members => change origin members
  | name :: path, origin, members =>
    match members.lookup name with
    | none => do
      let (o, ms) ← enter dotted change path (if dotted then .dotted else .passed) []
      return (origin, members ++ [(name, .table o ms)])
    | some (.table o ms) =>
      if o = .braces ∨ (dotted = true ∧ o = .header) then none
      else do
        let (o, ms) ← enter dotted change path o ms
        return (origin, replace name (.table o ms) members)
    | some (.tables items) =>
      match items.getLast? with
      | some (.table o ms) => do
        let (o, ms) ← enter dotted change path o ms
        return (origin, replace name (.tables (items.dropLast ++ [.table o ms])) members)
      | _ => none
    | some _ => none

/-- A new member, under a name that is free. -/
def addMember (name : String) (value : Toml) : Change := fun origin members =>
  if (members.lookup name).isSome then none else some (origin, members ++ [(name, value)])

/-- A new member under a dotted key, in a table that only dotted keys have made. -/
def addDotted (path : List String) (name : String) (value : Toml) : Change :=
  enter true (fun origin members =>
    if path = [] ∨ origin = .dotted then addMember name value origin members else none) path

/-- The header of a table: the table is new, or only headers have passed through it. -/
def openTable (path : List String) (name : String) : Change :=
  enter false (fun origin members =>
    match members.lookup name with
    | none => some (origin, members ++ [(name, .table .header [])])
    | some (.table .passed ms) => some (origin, replace name (.table .header ms) members)
    | some _ => none) path

/-- The header of one more table in a row of tables. -/
def openItem (path : List String) (name : String) : Change :=
  enter false (fun origin members =>
    match members.lookup name with
    | none => some (origin, members ++ [(name, .tables [.table .header []])])
    | some (.tables items) => some (origin, replace name (.tables (items ++ [.table .header []])) members)
    | some _ => none) path

end Toml

end TypedStorage
