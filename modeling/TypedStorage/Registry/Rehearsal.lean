/-
Rehearsals of builds. A rehearsed manager counts its builds; its build may look at the registry from inside,
after getting another rehearsed manager from it, and then succeeds, fails or breaks off as it was told.
-/
import TypedStorage.Registry.Manager

namespace TypedStorage

structure Rehearsal where
  kind : ManagerKind
  name : String
  fails : Bool
  breaksOff : Bool
  looks : Bool
  /-- The name of a manager to get before looking. -/
  inner : Option String

namespace Rehearsal

open Attempt

/-- What the registry is asked for, with a build. -/
def offerWith (kind : ManagerKind) (name : String) (build : InWorkshop Instance) : Offer Workshop Instance :=
  ⟨kind, name, Instance.ofType (.rehearsed kind), build⟩

/-- Looks at the registry, after getting the inner manager, which starts counting anew. -/
def look (o : Rehearsal) : InWorkshop Unit := do
  let inner ← match o.inner with
    | some name => Registry.get (offerWith o.kind name (finish (.rehearsed o.kind 0)))
    | none => pure none
  let r ← registry
  let seen : Sighting := ⟨r.contains o.kind o.name, r.names o.kind, r.slotCount, r.debugText, inner.bind Instance.serial?⟩
  changeWorkshop fun w => { w with sightings := w.sightings ++ [seen] }

def build (o : Rehearsal) : InWorkshop Instance := do
  let serial := (← workshop).count o.kind o.name
  changeWorkshop (·.counted o.kind o.name)
  if o.looks then o.look
  if o.breaksOff then throw .brokeOff
  if o.fails then throw (.failed (.configuration "refusing to build"))
  finish (.rehearsed o.kind serial)

def offer (o : Rehearsal) : Offer Workshop Instance := offerWith o.kind o.name o.build

end Rehearsal

end TypedStorage
