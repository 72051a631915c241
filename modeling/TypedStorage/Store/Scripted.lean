/-
A database that plays a script: it keeps nothing, writes down what it is told, and answers each call with the
next line of the script. A call that finds no line succeeds, with one row affected, no rows found, and no table
there.
-/
import TypedStorage.Store.Database

namespace TypedStorage.Scripted

/-- One line of a script. -/
structure Line where
  error : Option StoreError
  affected : Nat
  rows : List ValueMap
  tableExists : Bool

/-- What a call is answered without a script. -/
def Line.blank : Line := ⟨none, 1, [], false⟩

inductive Call where
  | tableExists (name : String)
  | createTable (sql : String)
  | write (c : Compiled)
  | read (c : Compiled)

structure State where
  script : List Line
  calls : List Call

namespace State

def start : State := ⟨[], []⟩

/-- The same state with nothing written down and another script. -/
def play (script : List Line) (_ : State) : State := ⟨script, []⟩

end State

/-- Writes a call down and takes the next line of the script. -/
def call (c : Call) : Access State Line := do
  let s ← get
  set (⟨s.script.tail, s.calls ++ [c]⟩ : State)
  let line := s.script.head?.getD .blank
  match line.error with
  | some e => throw e
  | none => return line

def database : Database State where
  label := "MockDb"
  tableExists name := return (← call (.tableExists name)).tableExists
  createTable d := do
    let _ ← call (.createTable d.createSql)
  write c := return (← call (.write c.compile)).affected
  read c := return (← call (.read c.compile)).rows

end TypedStorage.Scripted
