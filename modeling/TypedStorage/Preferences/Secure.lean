/-
Preferences in the keychain of the system: for one service, in one access group or none, and readable in
certain states of the device.
-/
import TypedStorage.Preferences.Error
import TypedStorage.Text.Quoted

namespace TypedStorage

/-- When the keychain gives a secret away. -/
inductive Accessibility where
  | whenUnlocked | afterFirstUnlock | whenUnlockedThisDeviceOnly | afterFirstUnlockThisDeviceOnly
  deriving DecidableEq

namespace Accessibility

def all : List Accessibility :=
  [.whenUnlocked, .afterFirstUnlock, .whenUnlockedThisDeviceOnly, .afterFirstUnlockThisDeviceOnly]

instance : Inhabited Accessibility := ⟨.afterFirstUnlock⟩

/-- The name in settings. -/
def keyword : Accessibility → String
  | .whenUnlocked => "when_unlocked"
  | .afterFirstUnlock => "after_first_unlock"
  | .whenUnlockedThisDeviceOnly => "when_unlocked_this_device_only"
  | .afterFirstUnlockThisDeviceOnly => "after_first_unlock_this_device_only"

def debugText : Accessibility → String
  | .whenUnlocked => "WhenUnlocked"
  | .afterFirstUnlock => "AfterFirstUnlock"
  | .whenUnlockedThisDeviceOnly => "WhenUnlockedThisDeviceOnly"
  | .afterFirstUnlockThisDeviceOnly => "AfterFirstUnlockThisDeviceOnly"

end Accessibility

/-- A text that may be missing, for people to look at. -/
def Text.quotedOption : Option String → String
  | some s => "Some(" ++ quoted s ++ ")"
  | none => "None"

structure SecurePreferences where
  serviceId : String
  accessGroup : Option String
  accessibility : Accessibility

namespace SecurePreferences

/-- Secure preferences for a service, which has a name; an empty group is none. -/
def of? (serviceId : String) (accessGroup : Option String) (accessibility : Accessibility) :
    Except PreferencesError SecurePreferences :=
  if serviceId = "" then .error (.configuration "secure preferences need a service id")
  else .ok ⟨serviceId, accessGroup.filter (· ≠ ""), accessibility⟩

def debugText (p : SecurePreferences) : String :=
  "KeychainPreferences \x7b service_id: " ++ Text.quoted p.serviceId ++ ", access_group: "
    ++ Text.quotedOption p.accessGroup ++ ", accessibility: " ++ p.accessibility.debugText ++ " \x7d"

end SecurePreferences

end TypedStorage
