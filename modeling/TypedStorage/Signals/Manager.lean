/-
Who hears of changes. A signal manager keeps its listeners in the order they were added; a change goes to
each of them once, in that order, and one that was added twice hears it twice. A sync manager takes changes
to another place; the one here drops them and never has any of its own.
-/
import TypedStorage.Signals.Change
import TypedStorage.Signals.Error
import TypedStorage.Text.Digits

namespace TypedStorage

/-- A change as one listener hears it. -/
structure Delivery (κ : Type) where
  listener : κ
  change : Change

/-- The listeners, by the names of type `κ` that they go by. -/
structure SignalManager (κ : Type) where
  listeners : List κ

namespace SignalManager

variable {κ : Type}

def empty : SignalManager κ := ⟨[]⟩

def add (m : SignalManager κ) (listener : κ) : SignalManager κ := ⟨m.listeners ++ [listener]⟩

def clear (_ : SignalManager κ) : SignalManager κ := empty

def count (m : SignalManager κ) : Nat := m.listeners.length

/-- What is heard of one change. -/
def emit (m : SignalManager κ) (change : Change) : List (Delivery κ) := m.listeners.map (⟨·, change⟩)

/-- What is heard of several changes, one after the other. -/
def emitAll (m : SignalManager κ) (changes : List Change) : List (Delivery κ) := changes.flatMap m.emit

def debugText (m : SignalManager κ) : String :=
  "SignalManager \x7b callback_count: " ++ Text.intText m.count ++ " \x7d"

end SignalManager

/-- The sync manager that takes changes nowhere. -/
inductive NoopSync where
  | noop
  deriving DecidableEq

namespace NoopSync

def start (_ : NoopSync) : Except SyncError Unit := .ok ()

def push (_ : NoopSync) (_ : List Change) (_ : String) : Except SyncError Unit := .ok ()

/-- The changes that an observer of a remote place is told of. -/
def observe (_ : NoopSync) (_ : String) : Except SyncError (List (List Change)) := .ok []

end NoopSync

end TypedStorage
