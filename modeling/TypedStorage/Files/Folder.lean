/-
Files of an application, in a folder of its own below one of the known directories. Whatever path is asked for,
the file lies inside the folder: paths that would leave it are refused before the tree is touched.
-/
import TypedStorage.Files.Tree

namespace TypedStorage

/-- Where the folder of an application can stand. -/
inductive BaseDirectory where
  | documents | caches | applicationSupport | temporary
  deriving DecidableEq

namespace BaseDirectory

def all : List BaseDirectory := [.documents, .caches, .applicationSupport, .temporary]

def name : BaseDirectory → String
  | .documents => "documents"
  | .caches => "caches"
  | .applicationSupport => "application_support"
  | .temporary => "temporary"

end BaseDirectory

/-- The paths of the base directories that are known, the latest first. -/
structure FileRoots where
  entries : List (BaseDirectory × String)

namespace FileRoots

def empty : FileRoots := ⟨[]⟩

def withRoot (roots : FileRoots) (base : BaseDirectory) (path : String) : FileRoots := ⟨(base, path) :: roots.entries⟩

def root? (roots : FileRoots) (base : BaseDirectory) : Option String := roots.entries.lookup base

end FileRoots

structure Folder where
  base : BaseDirectory
  path : String

/-- An access to the files of a folder. -/
abbrev FolderAccess (α : Type) := ExceptT FileError (StateM FileTree) α

namespace Folder

/-- The names of an inner path. -/
def inner (path : String) : Except FileError (List String) :=
  match Path.innerNames? path with
  | some names => .ok names
  | none => .error (.invalidPath path)

/-- The folder of a name below a base directory. -/
def of? (base : BaseDirectory) (name : String) (roots : FileRoots) : Except FileError Folder :=
  match inner name with
  | .error e => .error e
  | .ok names =>
    match roots.root? base with
    | some root => .ok ⟨base, Path.join root names⟩
    | none => .error (.missingRoot base.name)

/-- Where the file of a path is. -/
def resolve (f : Folder) (path : String) : Except FileError String := (inner path).map (Path.join f.path)

/-- An access at a place, and the error for what the tree refuses there. -/
def access {α : Type} (a : FileAccess α) (onFault : FileFault → FileError) : FolderAccess α := fun t =>
  let (r, t) := a t
  (r.mapError onFault, t)

/-- Saves a file and says where it is. -/
def save (f : Folder) (path : String) (bytes : List UInt8) : FolderAccess String := do
  let place ← f.resolve path
  access (FileTree.save (Path.names place) bytes) .system
  return place

def delete (f : Folder) (path : String) : FolderAccess Unit := do
  let place ← f.resolve path
  access (FileTree.delete (Path.names place)) fun
    | .notFound => .notFound place
    | fault => .system fault

end Folder

end TypedStorage
