/-
What can go wrong with the settings of an application.
-/
import TypedStorage.Files.Error

namespace TypedStorage

inductive ConfigError where
  | file (fault : FileFault)
  /-- The text of a configuration file is not in its format, or not of its shape. -/
  | toml
  /-- A line of the environment file is malformed. -/
  | environmentFile
  | invalid (text : String)
  deriving DecidableEq

def ConfigError.message : ConfigError → String
  | .file fault => "IO error: " ++ fault.message
  | .toml => "TOML parsing error"
  | .environmentFile => "Dotenvy error"
  | .invalid text => "Invalid configuration: " ++ text

/-- The kind of the error in one word. -/
def ConfigError.label : ConfigError → String
  | .file _ => "Io"
  | .toml => "Toml"
  | .environmentFile => "Dotenvy"
  | .invalid _ => "Invalid"

end TypedStorage
