/-
Typed preferences: values of types that can be stored, under names. What cannot be encoded is not put; what is
there under a name but is no value of the wanted type counts as nothing.
-/
import TypedStorage.Preferences.Manager

namespace TypedStorage.PreferencesManager

variable {σ α : Type}

def putEncoded (m : PreferencesManager σ) (key : String) (stored : Except CodecError (List UInt8)) :
    PreferencesAccess σ Unit :=
  match stored with
  | .ok bytes => m.put key bytes
  | .error e => throw (.encoding e)

def set [Storable α] (m : PreferencesManager σ) (key : String) (x : α) : PreferencesAccess σ Unit :=
  m.putEncoded key (Storable.encode x)

def getAs (α : Type) [Storable α] (m : PreferencesManager σ) (key : String) : PreferencesAccess σ (Option α) :=
  return (← m.get key).bind Storable.decode?

def setJson [Json.Writable α] (m : PreferencesManager σ) (key : String) (x : α) : PreferencesAccess σ Unit :=
  m.putEncoded key (AsJson.encode x)

def getJson (α : Type) [Json.Readable α] (m : PreferencesManager σ) (key : String) : PreferencesAccess σ (Option α) :=
  return (← m.get key).bind AsJson.decode?

def kindOf (m : PreferencesManager σ) (key : String) : PreferencesAccess σ (Option ValueKind) :=
  return (← m.get key).bind ValueKind.ofEncoded?

end TypedStorage.PreferencesManager
