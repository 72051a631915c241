/-
Where preferences are kept: bytes under names. A manager with states of type `σ` puts, gets and removes; asking
whether a name is there may be an access of its own or look at what is got. Memory keeps everything and never
fails. A manager may also be out of reach for a while, and then every access fails.
-/
import TypedStorage.KeyMap
import TypedStorage.Preferences.Error

namespace TypedStorage

/-- An access to preferences with states of type `σ`. -/
abbrev PreferencesAccess (σ α : Type) := ExceptT PreferencesError (StateM σ) α

structure PreferencesManager (σ : Type) where
  put : String → List UInt8 → PreferencesAccess σ Unit
  get : String → PreferencesAccess σ (Option (List UInt8))
  remove : String → PreferencesAccess σ Unit
  contains : String → PreferencesAccess σ Bool

namespace PreferencesManager

variable {σ : Type}

/-- A manager that finds out whether a name is there by getting it. -/
def ofAccesses (put : String → List UInt8 → PreferencesAccess σ Unit)
    (get : String → PreferencesAccess σ (Option (List UInt8))) (remove : String → PreferencesAccess σ Unit) :
    PreferencesManager σ where
  put := put
  get := get
  remove := remove
  contains key := return (← get key).isSome

def memory : PreferencesManager (KeyMap (List UInt8)) where
  put key value := modify fun m => m.insert key value
  get key := return (← getThe (KeyMap (List UInt8))).get? key
  remove key := modify fun m => m.erase key
  contains key := return (← getThe (KeyMap (List UInt8))).contains key

/-- Fails with the text of the outage, if there is one. -/
def unlessOut {α : Type} (a : PreferencesAccess σ α) : PreferencesAccess (Option String × σ) α :=
  fun (outage, s) =>
    match outage with
    | some text => (.error (.pool text), (outage, s))
    | none =>
      let (r, s) := a s
      (r, (outage, s))

/-- The manager with a state that says whether it is out of reach, and why. -/
def interruptible (m : PreferencesManager σ) : PreferencesManager (Option String × σ) :=
  ofAccesses (fun key value => unlessOut (m.put key value)) (fun key => unlessOut (m.get key))
    (fun key => unlessOut (m.remove key))

end PreferencesManager

end TypedStorage
