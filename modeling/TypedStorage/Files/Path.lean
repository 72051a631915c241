/-
Paths as text: names with slashes between them. An empty name and a single dot say nothing, so that different
texts lead to the same place. A path is inner when following it from a folder ends inside that folder: it
does not start at the top, it never goes up, and it has at least one name.
-/
import TypedStorage.Text.Pieces

namespace TypedStorage.Path

def isAbsolute (s : String) : Bool := s.toList.head? = some '/'

/-- The steps of a path, one per name and per dot. -/
def steps (s : String) : List String := (Text.pieces '/' s.toList).map String.ofList

/-- The steps that lead somewhere. -/
def names (s : String) : List String := (steps s).filter fun name => name ≠ "" ∧ name ≠ "."

/-- The names of an inner path. -/
def innerNames? (s : String) : Option (List String) :=
  if isAbsolute s ∨ ".." ∈ names s ∨ names s = [] then none else some (names s)

/-- A path and one more name. -/
def push (base name : String) : String :=
  if base = "" ∨ base.toList.getLast? = some '/' then base ++ name else base ++ "/" ++ name

def join (base : String) (names : List String) : String := names.foldl push base

end TypedStorage.Path
