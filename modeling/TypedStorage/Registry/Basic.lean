/-
A registry of managers. Each is kept in a slot under its kind and its name, and is built when it is first asked
for; from then on everyone gets the same one. A slot is there before its manager: a build that fails takes its
slot away again, and a build that breaks off without an answer leaves it empty, for the next one to fill.
Building may itself use the registry.
-/
import TypedStorage.Error
import TypedStorage.KeyMap
import TypedStorage.Text.Quoted

namespace TypedStorage

inductive ManagerKind where
  | database | preferences | files | sync
  deriving DecidableEq

namespace ManagerKind

def all : List ManagerKind := [.database, .preferences, .files, .sync]

def name : ManagerKind → String
  | .database => "database"
  | .preferences => "preferences"
  | .files => "files"
  | .sync => "sync"

end ManagerKind

/-- Why there is no manager. -/
inductive Setback where
  | failed (cause : StorageError)
  /-- The build broke off without an answer. -/
  | brokeOff
  deriving DecidableEq

/-- The slots of each kind under their names; an empty one has no manager yet. -/
structure Registry (μ : Type) where
  slots : ManagerKind → KeyMap (Option μ)

/-- An attempt that may use a registry and a state of its own. -/
abbrev Attempt (σ μ α : Type) := ExceptT Setback (StateM (Registry μ × σ)) α

/-- What is asked of a registry: a manager under a kind and a name, which managers will do, and how to build one. -/
structure Offer (σ μ : Type) where
  kind : ManagerKind
  name : String
  accepts : μ → Bool
  build : Attempt σ μ μ

namespace Registry

variable {σ μ : Type}

def empty : Registry μ := ⟨fun _ => .empty⟩

def slot? (r : Registry μ) (kind : ManagerKind) (name : String) : Option (Option μ) := (r.slots kind).get? name

/-- The registry with other slots of one kind. -/
def update (r : Registry μ) (kind : ManagerKind) (change : KeyMap (Option μ) → KeyMap (Option μ)) : Registry μ :=
  ⟨fun k => if k = kind then change (r.slots k) else r.slots k⟩

/-- The manager under a kind and a name, if it is built. -/
def manager? (r : Registry μ) (kind : ManagerKind) (name : String) : Option μ := (r.slot? kind name).join

/-- Makes sure that there is a slot. -/
def reserve (r : Registry μ) (kind : ManagerKind) (name : String) : Registry μ :=
  r.update kind fun m => m.insert name (r.manager? kind name)

def fill (r : Registry μ) (kind : ManagerKind) (name : String) (x : μ) : Registry μ :=
  r.update kind fun m => m.insert name (some x)

/-- Takes an empty slot away. -/
def release (r : Registry μ) (kind : ManagerKind) (name : String) : Registry μ :=
  match r.manager? kind name with
  | some _ => r
  | none => r.update kind fun m => m.erase name

def contains (r : Registry μ) (kind : ManagerKind) (name : String) : Bool := (r.manager? kind name).isSome

/-- The names of the managers that are built, in order. -/
def names (r : Registry μ) (kind : ManagerKind) : List String := (r.slots kind).keys.filter (r.contains kind)

def slotCount (r : Registry μ) : Nat := ManagerKind.all.foldr (fun k n => (r.slots k).entries.length + n) 0

def debugText (r : Registry μ) : String :=
  "StorageRegistry \x7b entries: " ++ Text.quoted (toString r.slotCount) ++ " \x7d"

/-- The manager that is offered, built now unless it is there; one that will not do is not replaced. -/
def tryGet (o : Offer σ μ) : Attempt σ μ μ := fun (r, s) =>
  match r.manager? o.kind o.name with
  | some x =>
    if o.accepts x then (.ok x, (r, s))
    else (.error (.failed (.internal ("'" ++ o.name ++ "' is registered with a different manager type"))), (r, s))
  | none =>
    match o.build (r.reserve o.kind o.name, s) with
    | (.ok x, (r, s)) => (.ok x, (r.fill o.kind o.name x, s))
    | (.error (.failed e), (r, s)) => (.error (.failed e), (r.release o.kind o.name, s))
    | (.error .brokeOff, (r, s)) => (.error .brokeOff, (r, s))

/-- The manager that is offered, or nothing where building it fails. -/
def get (o : Offer σ μ) : Attempt σ μ (Option μ) := fun s =>
  match tryGet o s with
  | (.ok x, s) => (.ok (some x), s)
  | (.error (.failed _), s) => (.ok none, s)
  | (.error .brokeOff, s) => (.error .brokeOff, s)

end Registry

end TypedStorage
