/-
What a map of records answers. `Step` is what a map from keys to records answers to a request, and what becomes of it;
it leaves open the order in which records are listed, and which error it is that refuses a request. A selection finds
the records of the map, filtered and sorted as a dialect compares them; one that asks for some fields only shows no more
than those. `Holds` says that rows are the records of a map.
-/
import TypedStorage.Proofs.Query.Unambiguous
import TypedStorage.Proofs.Store.Rows
import TypedStorage.Store.RecordStore

namespace TypedStorage

/-! ## Requests -/

/-- An operation with keys for what it is about. -/
inductive Request (α : Type) where
  | create (x : α)
  | createMany (xs : List α)
  | getById (k : Key)
  | listAll
  | find (q : Selection)
  | findOne (q : Selection)
  | update (x : α)
  | upsert (x : α)
  | delete (k : Key)
  | deleteMany (ks : List Key)

namespace Request

def operation {α : Type} : Request α → Operation α
  | .create x => .create x
  | .createMany xs => .createMany xs
  | .getById k => .getById k.scalar
  | .listAll => .listAll
  | .find q => .find q
  | .findOne q => .findOne q
  | .update x => .update x
  | .upsert x => .upsert x
  | .delete k => .delete k.scalar
  | .deleteMany ks => .deleteMany (ks.map Key.scalar)

end Request

namespace RecordType

variable {σ : String → Type} [∀ name, Inhabited (σ name)] (d : Sql.Dialect) (t : RecordType)
  (constants : Expression → Scalar)

/-! ## The map -/

/-- What a selection finds among records that are visited in this order. -/
def Finds (q : Selection) (xs : List (t.Record σ)) (answer : Except StoreError (List (t.Record σ))) : Prop :=
  if q.fields = [] then
    match q.among? d t xs with
    | some ys => answer = .ok ys
    | none => ∃ e, answer = .error e
  else
    match Sql.select? d (t.sqlTable constants) (xs.map t.row) (q.of t.table).statement with
    | some found => answer = found.mapM (t.schema constants).ofRow
    | none => ∃ e, answer = .error e

/-- A map of records answers a request, and becomes another map. -/
inductive Step : Contents Key (t.Record σ) → Request (t.Record σ) → Except StoreError (Reply (t.Record σ)) →
    Contents Key (t.Record σ) → Prop
  | create {m x} (h : m (t.keyOf x) = none) : Step m (.create x) (.ok (.record x)) (m.put t.keyOf x)
  | createTaken {m x e} (h : (m (t.keyOf x)).isSome) : Step m (.create x) (.error e) m
  | createMany {m xs} (h : m.Fresh t.keyOf xs) : Step m (.createMany xs) (.ok (.count xs.length)) (m.putAll t.keyOf xs)
  | createManyTaken {m xs e} (h : ¬m.Fresh t.keyOf xs) : Step m (.createMany xs) (.error e) m
  | getById {m k} : Step m (.getById k) (.ok (.found (m k))) m
  | listAll {m xs} (h : m.Enumerates t.keyOf xs) : Step m .listAll (.ok (.records xs)) m
  | find {m q xs answer} (h : m.Enumerates t.keyOf xs) (hf : Finds d t constants q xs answer) :
    Step m (.find q) (answer.map .records) m
  | findOne {m q xs answer} (h : m.Enumerates t.keyOf xs) (hf : Finds d t constants (q.step (.limit 1)) xs answer) :
    Step m (.findOne q) (answer.map fun ys => .found ys.getLast?) m
  | update {m x} (h : (m (t.keyOf x)).isSome) : Step m (.update x) (.ok (.flag true)) (m.put t.keyOf x)
  | updateMissing {m x} (h : m (t.keyOf x) = none) : Step m (.update x) (.ok (.flag false)) m
  | upsert {m x} : Step m (.upsert x) (.ok (.record x)) (m.put t.keyOf x)
  | delete {m k} : Step m (.delete k) (.ok (.flag (m k).isSome)) (m.removeAll [k])
  | deleteMany {m ks} : Step m (.deleteMany ks) (.ok (.count (m.countOf ks))) (m.removeAll ks)

/-- Answers to one request after the other. -/
inductive Run : Contents Key (t.Record σ) → List (Request (t.Record σ)) → List (Except StoreError (Reply (t.Record σ))) →
    Contents Key (t.Record σ) → Prop
  | nil {m} : Run m [] [] m
  | cons {m m' m'' r answer rs answers} (h : Step d t constants m r answer m') (hs : Run m' rs answers m'') :
    Run m (r :: rs) (answer :: answers) m''

/-- The rows are those of the records in the map, all of which can be read back. -/
def Holds (m : Contents Key (t.Record σ)) (rows : List Sql.Row) : Prop :=
  ∃ xs, m.Enumerates t.keyOf xs ∧ (∀ x ∈ xs, t.ReadsBack x) ∧ rows = xs.map t.row

variable {t}

end RecordType

end TypedStorage
