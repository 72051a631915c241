/-
A registry under many callers at once. A call is cut into its atomic steps: it finds or makes the slot of its key
under the lock of the table, takes the lock of the slot, looks at what is in it or builds, stores what was built,
and gives the lock back; after a failure it takes the slot out of the table if it is still there, empty, and held by
nobody else; last it lets go of the slot. A schedule says who moves next and how builds end. A caller that waits
for a lock stays where it is, so the states after all schedules are all that any interleaving can reach.

Slots have numbers, since one key can have one slot after another. What is stored is also written down; no step
looks at that.
-/
import TypedStorage.Proofs.Registry.Run
import Mathlib.Logic.Function.Basic

namespace TypedStorage

/-- A slot as all who hold it see it. -/
structure SharedSlot (μ : Type) where
  content : Option μ
  /-- The caller that has the lock. -/
  owner : Option Nat
  /-- How many hold the slot, the table among them. -/
  handles : Nat

/-- There is a manager, as it looks from outside: a slot that is locked is taken for empty. -/
def SharedSlot.isBuilt {μ : Type} (x : SharedSlot μ) : Bool := x.owner.isNone && x.content.isSome

/-- How far a call has come, with the number of the slot that it holds. -/
inductive Phase (μ : Type) where
  | arrived
  | waiting (a : Nat)
  | looking (a : Nat)
  | building (a : Nat)
  | storing (a : Nat) (x : μ)
  | leaving (a : Nat) (answer : Except Setback μ)
  | failing (a : Nat) (cause : StorageError)
  | releasing (a : Nat) (cause : StorageError)
  | dropping (a : Nat) (answer : Except Setback μ)
  | returned (answer : Except Setback μ)

namespace Phase

variable {μ : Type}

/-- The slot that the caller holds. -/
def held? : Phase μ → Option Nat
  | arrived | returned _ => none
  | waiting a | looking a | building a | storing a _ | leaving a _ | failing a _ | releasing a _ | dropping a _ => some a

/-- The slot whose lock the caller has. -/
def locked? : Phase μ → Option Nat
  | looking a | building a | storing a _ | leaving a _ | failing a _ => some a
  | _ => none

/-- The slot that the caller may still read or build. -/
def used? : Phase μ → Option Nat
  | waiting a | looking a | building a | storing a _ => some a
  | _ => none

/-- The slot that the caller has found empty and may still fill. -/
def filled? : Phase μ → Option Nat
  | building a | storing a _ => some a
  | _ => none

/-- The manager that the caller gets. -/
def given? : Phase μ → Option μ
  | leaving _ answer | dropping _ answer | returned answer => answer.toOption
  | _ => none

end Phase

/-- A call for the manager of a key; some managers will do. -/
structure Caller (μ : Type) where
  key : SlotKey
  accepts : μ → Bool
  phase : Phase μ

structure Traffic (μ : Type) where
  table : SlotKey → Option Nat
  slots : Nat → SharedSlot μ
  /-- How many slots were made. -/
  made : Nat
  callers : List (Caller μ)
  stored : List (SlotKey × μ)

inductive Move (μ : Type) where
  | arrive (key : SlotKey) (accepts : μ → Bool)
  /-- A caller takes its next step, if it can. -/
  | go (i : Nat)
  /-- The build that a caller runs ends. -/
  | finish (i : Nat) (outcome : Except Setback μ)

namespace Traffic

variable {μ : Type}

def start : Traffic μ := ⟨fun _ => none, fun _ => ⟨none, none, 0⟩, 0, [], []⟩

def caller? (s : Traffic μ) (i : Nat) : Option (Caller μ) := s.callers[i]?

/-- The manager that is stored under a key. -/
def manager? (s : Traffic μ) (key : SlotKey) : Option μ := (s.table key).bind fun a => (s.slots a).content

/-- A caller gets to a phase, and a slot changes. -/
def act (s : Traffic μ) (i : Nat) (c : Caller μ) (p : Phase μ) (a : Nat) (x : SharedSlot μ) : Traffic μ :=
  { s with callers := s.callers.set i { c with phase := p }, slots := Function.update s.slots a x }

/-- The slot of the key, a new one where there is none; it is held once more. -/
def reach (s : Traffic μ) (i : Nat) (c : Caller μ) : Traffic μ :=
  match s.table c.key with
  | some a => s.act i c (.waiting a) a { s.slots a with handles := (s.slots a).handles + 1 }
  | none =>
    { s.act i c (.waiting s.made) s.made ⟨none, none, 2⟩ with
      table := Function.update s.table c.key (some s.made), made := s.made + 1 }

/-- An empty slot goes out of the table where only the table and one caller hold it. -/
def release (s : Traffic μ) (key : SlotKey) (a : Nat) : Traffic μ :=
  if s.table key = some a ∧ (s.slots a).handles = 2 ∧ (s.slots a).isBuilt = false then
    { s with table := Function.update s.table key none
             slots := Function.update s.slots a { s.slots a with handles := (s.slots a).handles - 1 } }
  else s

/-- The next step of a caller. -/
def go (s : Traffic μ) (i : Nat) (c : Caller μ) : Traffic μ :=
  match c.phase with
  | .arrived => s.reach i c
  | .waiting a =>
    match (s.slots a).owner with
    | none => s.act i c (.looking a) a { s.slots a with owner := some i }
    | some _ => s
  | .looking a =>
    match (s.slots a).content with
    | some x => s.act i c (.leaving a (if c.accepts x then .ok x else .error (wrongType c.key.2))) a (s.slots a)
    | none => s.act i c (.building a) a (s.slots a)
  | .building _ => s
  | .storing a x =>
    { s.act i c (.leaving a (.ok x)) a { s.slots a with content := some x } with stored := s.stored ++ [(c.key, x)] }
  | .leaving a answer => s.act i c (.dropping a answer) a { s.slots a with owner := none }
  | .failing a cause => s.act i c (.releasing a cause) a { s.slots a with owner := none }
  | .releasing a cause =>
    let t := s.release c.key a
    t.act i c (.dropping a (.error (.failed cause))) a (t.slots a)
  | .dropping a answer => s.act i c (.returned answer) a { s.slots a with handles := (s.slots a).handles - 1 }
  | .returned _ => s

/-- The end of a build; the registry does nothing where a build breaks off but give back the lock. -/
def finish (s : Traffic μ) (i : Nat) (c : Caller μ) (outcome : Except Setback μ) : Traffic μ :=
  match c.phase with
  | .building a =>
    match outcome with
    | .ok x => s.act i c (.storing a x) a (s.slots a)
    | .error (.failed cause) => s.act i c (.failing a cause) a (s.slots a)
    | .error .brokeOff => s.act i c (.leaving a (.error .brokeOff)) a (s.slots a)
  | _ => s

def next (s : Traffic μ) : Move μ → Traffic μ
  | .arrive key accepts => { s with callers := s.callers ++ [⟨key, accepts, .arrived⟩] }
  | .go i =>
    match s.caller? i with
    | some c => s.go i c
    | none => s
  | .finish i outcome =>
    match s.caller? i with
    | some c => s.finish i c outcome
    | none => s

def after (s : Traffic μ) (moves : List (Move μ)) : Traffic μ := moves.foldl next s

/-- The traffic after a schedule, from an empty registry. -/
def run (moves : List (Move μ)) : Traffic μ := start.after moves

end Traffic

end TypedStorage
