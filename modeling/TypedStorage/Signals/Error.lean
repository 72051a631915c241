/-
What can go wrong with synchronisation.
-/
namespace TypedStorage

inductive SyncError where
  | notStarted
  | remote (text : String)
  | observer (text : String)
  deriving DecidableEq

def SyncError.message : SyncError → String
  | .notStarted => "Sync manager not started"
  | .remote text => "Remote error: " ++ text
  | .observer text => "Observer failed: " ++ text

end TypedStorage
