/-
What record stores answer, operation after operation (`run`). Every operation is one access to the database: a
write answers from the count of rows (`answer_create` and the others that execute), a read from the records in the
rows that are found (`answer_getById` and the others that fetch). What listeners hear is left out.
-/
import TypedStorage.Store.RecordStore
import TypedStorage.Store.Sqlite

namespace TypedStorage

namespace Access

variable {σ α β : Type}

theorem bind_apply (a : Access σ α) (f : α → Access σ β) (state : σ) : (a >>= f) state =
    match a state with
    | (.ok x, state') => f x state'
    | (.error e, state') => (.error e, state') := by
  show (match a state with | (r, state') => ExceptT.bindCont f r state') = _
  rcases a state with ⟨_ | _, state'⟩ <;> rfl

theorem pure_apply (x : α) (state : σ) : (pure x : Access σ α) state = (.ok x, state) := rfl

theorem ofExcept_apply (r : Except StoreError α) (state : σ) :
    (MonadExcept.ofExcept r : Access σ α) state = (r, state) := by
  cases r <;> rfl

end Access

/-- A call changes the state of the engine and of the database alike. -/
theorem SqliteEngine.access_apply {σ α : Type} (call : EngineCall σ α) (state : σ) :
    access call state = ((call state).1.mapError .ofFault, (call state).2) := by
  show (match call state with | (r, state') => (r.mapError StoreError.ofFault, state')) = _
  rfl

namespace RecordStore

variable {σ κ α : Type} (s : RecordStore σ κ α)

/-- The answer to an operation, and the state after it. -/
def answer (op : Operation α) (state : σ) : Except StoreError (Reply α) × σ :=
  ((s.perform op state).1.map (·.value), (s.perform op state).2)

/-- The answers to operations, one after the other, and the state after them. -/
def run : List (Operation α) → σ → List (Except StoreError (Reply α)) × σ
  | [], state => ([], state)
  | op :: ops, state => ((s.answer op state).1 :: (run ops (s.answer op state).2).1, (run ops (s.answer op state).2).2)

/-- What an access to the database answers, as the answer of an operation. -/
def replying {β : Type} (reply : β → Reply α) (r : Except StoreError β × σ) : Except StoreError (Reply α) × σ :=
  (r.1.map reply, r.2)

variable (state : σ)

/-! ## Writes -/

theorem answer_create (x : α) : s.answer (.create x) state
    = replying (fun _ => .record x) (s.database.execute (s.schema.insertQuery x) state) := by
  simp only [answer, perform, create, Access.bind_apply, Access.pure_apply]
  rcases s.database.execute (s.schema.insertQuery x) state with ⟨_ | _, _⟩ <;> rfl

theorem answer_createMany (xs : List α) : s.answer (.createMany xs) state
    = replying .count (s.database.execute (s.schema.insertManyQuery xs) state) := by
  simp only [answer, perform, createMany, Access.bind_apply, Access.pure_apply]
  rcases s.database.execute (s.schema.insertManyQuery xs) state with ⟨_ | _, _⟩ <;> rfl

theorem answer_update (x : α) : s.answer (.update x) state
    = replying (fun n => .flag (0 < n)) (s.database.execute (s.schema.updateQuery x) state) := by
  simp only [answer, perform, update, Access.bind_apply, Access.pure_apply]
  rcases s.database.execute (s.schema.updateQuery x) state with ⟨_ | _, _⟩ <;> rfl

theorem answer_upsert (x : α) : s.answer (.upsert x) state
    = replying (fun _ => .record x) (s.database.execute (s.schema.upsertQuery x) state) := by
  simp only [answer, perform, upsert, Access.bind_apply, Access.pure_apply]
  rcases s.database.execute (s.schema.upsertQuery x) state with ⟨_ | _, _⟩ <;> rfl

theorem answer_delete (key : Scalar) : s.answer (.delete key) state
    = replying (fun n => .flag (0 < n)) (s.database.execute (s.schema.deleteQuery key) state) := by
  simp only [answer, perform, delete, Access.bind_apply, Access.pure_apply]
  rcases s.database.execute (s.schema.deleteQuery key) state with ⟨_ | _, _⟩ <;> rfl

theorem answer_deleteMany (keys : List Scalar) : s.answer (.deleteMany keys) state
    = replying .count (s.database.execute (s.schema.deleteManyQuery keys) state) := by
  simp only [answer, perform, deleteMany, Access.bind_apply, Access.pure_apply]
  rcases s.database.execute (s.schema.deleteManyQuery keys) state with ⟨_ | _, _⟩ <;> rfl

/-! ## Reads -/

/-- The records in the rows that are found, or what is wrong with the first row that holds none. -/
theorem fetchRecords_apply (q : Query) : s.fetchRecords q state =
    match s.database.fetch q state with
    | (.ok found, state') => (found.mapM s.schema.ofRow, state')
    | (.error e, state') => (.error e, state') := by
  simp only [fetchRecords, Access.bind_apply, Access.ofExcept_apply]
  rcases s.database.fetch q state with ⟨_ | _, _⟩ <;> rfl

theorem answer_getById (key : Scalar) : s.answer (.getById key) state
    = replying (fun xs => .found xs.head?) (s.fetchRecords (s.schema.selectByIdQuery key) state) := by
  simp only [answer, perform, getById, Access.bind_apply, Access.pure_apply]
  rcases s.fetchRecords (s.schema.selectByIdQuery key) state with ⟨_ | _, _⟩ <;> rfl

theorem answer_find (q : Selection) : s.answer (.find q) state
    = replying .records (s.fetchRecords (q.of s.schema.table) state) := by
  simp only [answer, perform, find, Access.bind_apply, Access.pure_apply]
  rcases s.fetchRecords (q.of s.schema.table) state with ⟨_ | _, _⟩ <;> rfl

theorem answer_listAll : s.answer .listAll state = s.answer (.find .all) state := rfl

theorem answer_findOne (q : Selection) : s.answer (.findOne q) state
    = replying (fun xs => .found xs.getLast?) (s.fetchRecords ((q.step (.limit 1)).of s.schema.table) state) := by
  simp only [answer, perform, findOne, find, Access.bind_apply, Access.pure_apply]
  rcases s.fetchRecords ((q.step (.limit 1)).of s.schema.table) state with ⟨_ | _, _⟩ <;> rfl

end RecordStore

end TypedStorage
