/-
A login session, a record of the kind that is kept as JSON.
-/
import TypedStorage.Json.Read
import TypedStorage.Json.Write

namespace TypedStorage

structure Session where
  user : String
  scopes : List String
  expires : Option Int64
  deriving DecidableEq

namespace Session

instance : Json.Writable Session where
  write s := .ok (.ofPairs [("user", .ofString s.user), ("scopes", .ofList (s.scopes.map .ofString)),
    ("expires", .ofOption (s.expires.map .ofInt64))])

instance : Json.Readable Session where
  read? budget x := do
    let f ← Json.Fields.ofSource? ["user", "scopes", "expires"] budget x
    return ⟨← f.required "user", ← f.required "scopes", ← f.optional "expires"⟩

end Session

end TypedStorage
