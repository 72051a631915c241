/-
Where the settings of an application come from: a file that the environment names, or else the file with the
usual name. The environment may be completed by a file next to the settings.
-/
import TypedStorage.Settings.Environment
import TypedStorage.Settings.Toml

namespace TypedStorage.Settings

/-- The variable that names the file of settings. -/
def pathVariable : String := "STOWAGE_CONFIG"

def usualPath : String := "./stowage.toml"

/-- The file of environment variables. -/
def environmentPath : String := ".env"

/-- Valid settings from a file. -/
def ofFile (files : FileTree) (path : String) : Except ConfigError Settings :=
  match files.read path with
  | .error fault => .error (.file fault)
  | .ok bytes =>
    match Text.ofUtf8? bytes with
    | none => .error (.file .invalidData)
    | some text => ofToml text

/-- The environment completed by the file of variables, which may be missing. -/
def environment (files : FileTree) (set : Environment.Variables) : Except ConfigError Environment.Variables :=
  match files.read environmentPath with
  | .error _ => .ok set
  | .ok bytes =>
    match (Text.ofUtf8? bytes).bind (Environment.load? set) with
    | some set => .ok set
    | none => .error .environmentFile

def load (files : FileTree) (set : Environment.Variables) : Except ConfigError Settings := do
  let set ← environment files set
  match set.get? pathVariable with
  | some path => ofFile files path
  | none =>
    match files.find (Path.steps usualPath) with
    | .ok _ => ofFile files usualPath
    | .error _ => throw (.invalid ("Config path must be specified in .env file as " ++ pathVariable ++ " or in "
        ++ usualPath ++ " file"))

end TypedStorage.Settings
