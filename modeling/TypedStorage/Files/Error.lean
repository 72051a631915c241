/-
What can go wrong with files: what the file system refuses, and what is refused before it is asked.
-/
namespace TypedStorage

/-- Why the file system refuses a request. -/
inductive FileFault where
  | notFound | alreadyExists | notADirectory | isADirectory | invalidFilename | invalidInput | invalidData
  deriving DecidableEq

namespace FileFault

def name : FileFault → String
  | .notFound => "NotFound"
  | .alreadyExists => "AlreadyExists"
  | .notADirectory => "NotADirectory"
  | .isADirectory => "IsADirectory"
  | .invalidFilename => "InvalidFilename"
  | .invalidInput => "InvalidInput"
  | .invalidData => "InvalidData"

def message : FileFault → String
  | .notFound => "No such file or directory (os error 2)"
  | .alreadyExists => "File exists (os error 17)"
  | .notADirectory => "Not a directory (os error 20)"
  | .isADirectory => "Is a directory (os error 21)"
  | .invalidFilename => "File name too long (os error 36)"
  | .invalidInput => "file name contained an unexpected NUL byte"
  | .invalidData => "stream did not contain valid UTF-8"

end FileFault

inductive FileError where
  | system (fault : FileFault)
  | invalidPath (path : String)
  | missingRoot (base : String)
  | notFound (path : String)
  deriving DecidableEq

def FileError.message : FileError → String
  | .system fault => "IO error: " ++ fault.message
  | .invalidPath path => "Invalid path '" ++ path ++ "': must be relative and stay inside the folder"
  | .missingRoot base => "No root directory known for " ++ base
  | .notFound path => "File not found: " ++ path

/-- The kind of the error in one word. -/
def FileError.label : FileError → String
  | .system _ => "Io"
  | .invalidPath _ => "InvalidPath"
  | .missingRoot _ => "MissingRoot"
  | .notFound _ => "NotFound"

end TypedStorage
