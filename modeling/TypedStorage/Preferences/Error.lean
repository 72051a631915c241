/-
What can go wrong with preferences.
-/
import TypedStorage.Codec.Storable

namespace TypedStorage

/-- Why there is no connection to the server that keeps preferences. -/
inductive ServerFault where
  | badUrl
  | missingHost
  | missingPath
  | noTls
  | badDatabaseNumber
  | badProtocol
  | unreachable (text : String)
  deriving DecidableEq

def ServerFault.message : ServerFault → String
  | .badUrl => "Redis URL did not parse- InvalidClientConfig"
  | .missingHost => "Missing hostname- InvalidClientConfig"
  | .missingPath => "Missing path- InvalidClientConfig"
  | .noTls => "can't connect with TLS, the feature is not enabled- InvalidClientConfig"
  | .badDatabaseNumber => "Invalid database number- InvalidClientConfig"
  | .badProtocol => "Invalid protocol version- InvalidClientConfig"
  | .unreachable text => text

inductive PreferencesError where
  | server (fault : ServerFault)
  | pool (text : String)
  | keychain (text : String)
  | encoding (cause : CodecError)
  | configuration (text : String)
  | task (text : String)
  deriving DecidableEq

def PreferencesError.message : PreferencesError → String
  | .server fault => "Redis connection error: " ++ fault.message
  | .pool text => "Connection pool error: " ++ text
  | .keychain text => "Keychain error: " ++ text
  | .encoding cause => "Encoding error: " ++ cause.message
  | .configuration text => "Configuration error: " ++ text
  | .task text => "Background task failed: " ++ text

/-- The kind of the error in one word. -/
def PreferencesError.label : PreferencesError → String
  | .server _ => "ConnectionError"
  | .pool _ => "Connection"
  | .keychain _ => "Keychain"
  | .encoding _ => "Encoding"
  | .configuration _ => "Configuration"
  | .task _ => "Task"

end TypedStorage
