/-
The managers that a registry holds. Each has an identity, so that two managers can be told apart that manage
the same thing: one that is built is numbered by the workshop that builds it, and the application's own managers
have numbers of their own.
-/
import TypedStorage.Engine.Connection
import TypedStorage.Files.Folder
import TypedStorage.Preferences.Secure
import TypedStorage.Preferences.Server
import TypedStorage.Registry.Basic
import TypedStorage.Signals.Manager

namespace TypedStorage

inductive Manager where
  | connection (c : Engine.Connection)
  | server (p : ServerPreferences)
  | secure (p : SecurePreferences)
  | folder (f : Folder)
  | sync (s : NoopSync)
  /-- A manager that the application has made itself. -/
  | own (kind : ManagerKind)
  /-- A manager that stands for one in a rehearsal, numbered by the builds before it. -/
  | rehearsed (kind : ManagerKind) (serial : Nat)

/-- The type that a manager is registered as. -/
inductive ManagerType where
  | usual (kind : ManagerKind)
  | rehearsed (kind : ManagerKind)
  deriving DecidableEq

def Manager.type : Manager → ManagerType
  | .connection _ => .usual .database
  | .server _ | .secure _ => .usual .preferences
  | .folder _ => .usual .files
  | .sync _ => .usual .sync
  | .own kind => .usual kind
  | .rehearsed kind _ => .rehearsed kind

inductive Identity where
  | built (number : Nat)
  | own (kind : ManagerKind) (number : Nat)
  deriving DecidableEq

structure Instance where
  identity : Identity
  manager : Manager

namespace Instance

def ofType (t : ManagerType) (x : Instance) : Bool := x.manager.type = t

/-- The application's own manager of a kind under a number. -/
def own (kind : ManagerKind) (number : Nat) : Instance := ⟨.own kind number, .own kind⟩

def serial? (x : Instance) : Option Nat :=
  match x.manager with
  | .rehearsed _ serial => some serial
  | _ => none

end Instance

/-- What someone saw who looked at the registry from inside a build. -/
structure Sighting where
  contains : Bool
  names : List String
  slots : Nat
  debug : String
  inner : Option Nat

/-- What builds find where they take place. -/
structure Surroundings where
  /-- Whether there is something that database connections can run on. -/
  isRunning : Bool
  /-- Why the client of a server does not take a URL, if it does not. -/
  refusal? : String → Option ServerFault

/-- Where managers are built. -/
structure Workshop extends Surroundings where
  built : Nat
  /-- How often each rehearsed manager was built. -/
  counts : List ((ManagerKind × String) × Nat)
  sightings : List Sighting

namespace Workshop

def start : Workshop := ⟨⟨true, ServerUrl.refusal?⟩, 0, [], []⟩

def count (w : Workshop) (kind : ManagerKind) (name : String) : Nat := (w.counts.lookup (kind, name)).getD 0

/-- The workshop after one more build of a rehearsed manager. -/
def counted (w : Workshop) (kind : ManagerKind) (name : String) : Workshop :=
  { w with counts := ((kind, name), w.count kind name + 1) :: w.counts }

end Workshop

namespace Attempt

abbrev InWorkshop (α : Type) := Attempt Workshop Instance α

def workshop : InWorkshop Workshop := return (← getThe (Registry Instance × Workshop)).2

def registry : InWorkshop (Registry Instance) := return (← getThe (Registry Instance × Workshop)).1

def changeWorkshop (f : Workshop → Workshop) : InWorkshop Unit := modify fun (r, w) => (r, f w)

/-- Gives a manager its identity. -/
def finish (m : Manager) : InWorkshop Instance := do
  let number := (← workshop).built
  changeWorkshop fun w => { w with built := number + 1 }
  return ⟨.built number, m⟩

end Attempt

end TypedStorage
