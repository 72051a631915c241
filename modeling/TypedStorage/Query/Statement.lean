/-
Queries: what is asked of one table. A selection is built up step by step; a later list of fields, limit or
offset replaces an earlier one, filters and sort keys add up.
-/
import TypedStorage.Query.Filter

namespace TypedStorage

inductive Direction where
  | ascending | descending
  deriving DecidableEq

namespace Direction

def all : List Direction := [.ascending, .descending]

def name : Direction → String
  | .ascending => "Ascending"
  | .descending => "Descending"

def sql : Direction → String
  | .ascending => "ASC"
  | .descending => "DESC"

end Direction

structure SortKey where
  field : String
  direction : Direction
  deriving DecidableEq

/-- Which rows of a table, which of their fields, and in what order; no fields stands for all of them. -/
structure Selection where
  fields : List String
  filters : List Filter
  sort : List SortKey
  limit : Option UInt64
  offset : Option UInt64

inductive Action where
  | select (s : Selection)
  | insert (values : ValueMap)
  | insertMany (rows : List ValueMap)
  | update (values : ValueMap) (filters : List Filter)
  | delete (filters : List Filter)
  | deleteMany (field : String) (ids : List Scalar)
  /-- On a conflict in the given fields, refresh the given columns, or all others if none are given. -/
  | upsert (values : ValueMap) (conflict : List String) (refresh : Option (List String))

structure Query where
  table : String
  action : Action

namespace Action

def verb : Action → String
  | .select _ => "select"
  | .insert _ => "insert"
  | .insertMany _ => "insert_many"
  | .update _ _ => "update"
  | .delete _ => "delete"
  | .deleteMany _ _ => "delete_many"
  | .upsert _ _ _ => "upsert"

def isRead : Action → Bool
  | .select _ => true
  | _ => false

/-- Says which columns an upsert refreshes; any other action stays as it is. -/
def withRefresh (a : Action) (fields : List String) : Action :=
  match a with
  | .upsert values conflict _ => .upsert values conflict (some fields)
  | a => a

end Action

namespace Selection

def all : Selection := ⟨[], [], [], none, none⟩

/-- One step in building a selection. -/
inductive Step where
  | fields (names : List String)
  | filter (f : Filter)
  | filters (fs : List Filter)
  | orderBy (field : String) (direction : Direction)
  | limit (n : UInt64)
  | offset (n : UInt64)

def step (s : Selection) : Step → Selection
  | .fields names => { s with fields := names }
  | .filter f => { s with filters := s.filters ++ [f] }
  | .filters fs => { s with filters := s.filters ++ fs }
  | .orderBy field direction => { s with sort := s.sort ++ [⟨field, direction⟩] }
  | .limit n => { s with limit := some n }
  | .offset n => { s with offset := some n }

def build (steps : List Step) : Selection := steps.foldl step all

def of (s : Selection) (table : String) : Query := ⟨table, .select s⟩

end Selection

end TypedStorage
