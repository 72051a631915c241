/-
A tree of directories and files. Each is found under the names that lead to it from the top, one by one: a step
below a file, a name that is missing and a name that is too long all stop the search where they occur.
-/
import TypedStorage.Files.Error
import TypedStorage.Files.Path
import TypedStorage.Text.Bytes

namespace TypedStorage

inductive Node where
  | directory
  | file (bytes : List UInt8)
  deriving DecidableEq

/-- What there is below the top, which is a directory itself. -/
structure FileTree where
  nodes : List (List String × Node)

/-- An access to the tree, which changes it also where it fails halfway. -/
abbrev FileAccess (α : Type) := ExceptT FileFault (StateM FileTree) α

namespace FileTree

def empty : FileTree := ⟨[]⟩

def node? (t : FileTree) (place : List String) : Option Node :=
  if place = [] then some .directory else t.nodes.lookup place

def put (t : FileTree) (place : List String) (n : Node) : FileTree :=
  ⟨(place, n) :: t.nodes.filter (·.1 ≠ place)⟩

def erase (t : FileTree) (place : List String) : FileTree := ⟨t.nodes.filter (·.1 ≠ place)⟩

/-- Whether a place comes first, or is the same: a directory comes before what it holds, and names are in order. -/
def comesFirst : List String → List String → Bool
  | [], _ => true
  | _ :: _, [] => false
  | a :: as, b :: bs => a < b || (a = b && comesFirst as bs)

/-- All nodes, each directory right before what it holds, and names in order. -/
def listing (t : FileTree) : List (List String × Node) := t.nodes.mergeSort fun a b => comesFirst a.1 b.1

/-- The paths of all nodes below a directory, each with a slash at the end if it is a directory itself. -/
def listingBelow (t : FileTree) (path : String) : List (String × Node) :=
  let top := Path.names path
  let inside := t.listing.filter fun p => top.isPrefixOf p.1 && p.1 ≠ top
  inside.map fun (place, n) =>
    let path := Path.join "" (place.drop top.length)
    (if n = .directory then path ++ "/" else path, n)

/-! ## Finding -/

/-- A name has at most 255 bytes. -/
def isTooLong (name : String) : Bool := name.utf8ByteSize > 255

/-- No name may hold the character NUL. -/
def isUnreadable (names : List String) : Bool := names.any fun name => name.toList.contains '\x00'

/-- What stands at the end of some steps from a place. -/
def findFrom (t : FileTree) : List String → Node → List String → Except FileFault Node
  | _, n, [] => .ok n
  | _, .file _, _ :: _ => .error .notADirectory
  | place, .directory, step :: steps =>
    if step = "" ∨ step = "." then t.findFrom place .directory steps
    else if step = ".." then
      if place = [] then .error .notFound else t.findFrom place.dropLast .directory steps
    else if isTooLong step then .error .invalidFilename
    else match t.node? (place ++ [step]) with
      | none => .error .notFound
      | some n => t.findFrom (place ++ [step]) n steps

def find (t : FileTree) (steps : List String) : Except FileFault Node :=
  if isUnreadable steps then .error .invalidInput else t.findFrom [] .directory steps

/-- The bytes of the file that a path leads to from the top of the tree. -/
def read (t : FileTree) (path : String) : Except FileFault (List UInt8) :=
  if path = "" ∨ Path.isAbsolute path then .error .notFound
  else match t.find (Path.steps path) with
    | .ok (.file bytes) => .ok bytes
    | .ok .directory => .error .isADirectory
    | .error fault => .error fault

/-! ## Changing -/

/-- Where names lead from a place: two dots lead up again, and above the top there is nothing. -/
def walk? (place : List String) : List String → Option (List String)
  | [] => some place
  | name :: names =>
    if name = ".." then if place = [] then none else walk? place.dropLast names
    else walk? (place ++ [name]) names

/-- Changes what stands where names lead. -/
def changeAt (names : List String) (change : FileTree → List String → FileTree) : FileAccess Unit :=
  match walk? [] names with
  | some place => modify fun t => change t place
  | none => throw .notFound

/-- Makes the directories that are missing on the way. -/
def makeDirectoriesFrom (place : List String) : List String → FileAccess Unit
  | [] => return
  | name :: names => do
    if name = ".." then
      if place = [] then throw .notFound
      makeDirectoriesFrom place.dropLast names
    else
      let here := place ++ [name]
      if isTooLong name then throw .invalidFilename
      match (← getThe FileTree).node? here with
      | some (.file _) => throw (if names = [] then .alreadyExists else .notADirectory)
      | some .directory => makeDirectoriesFrom here names
      | none =>
        modify fun t => t.put here .directory
        makeDirectoriesFrom here names

def makeDirectories (names : List String) : FileAccess Unit :=
  if isUnreadable names then throw .invalidInput else makeDirectoriesFrom [] names

/-- Writes a file into a directory that is there, over the file that has its name. -/
def write (names : List String) (bytes : List UInt8) : FileAccess Unit := do
  match (← getThe FileTree).find names with
  | .ok .directory => throw .isADirectory
  | .ok (.file _) | .error .notFound => changeAt names fun t place => t.put place (.file bytes)
  | .error fault => throw fault

/-- Writes a file, after the directories on the way to it. -/
def save (names : List String) (bytes : List UInt8) : FileAccess Unit := do
  makeDirectories names.dropLast
  write names bytes

def delete (names : List String) : FileAccess Unit := do
  match (← getThe FileTree).find names with
  | .ok .directory => throw .isADirectory
  | .ok (.file _) => changeAt names erase
  | .error fault => throw fault

/-- A tree of these files; one whose place is taken is left out. -/
def ofFiles (files : List (String × List UInt8)) : FileTree :=
  files.foldl (fun t (path, bytes) => ((save (Path.names path) bytes).run.run t).2) empty

end FileTree

end TypedStorage
