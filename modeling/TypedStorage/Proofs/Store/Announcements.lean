/-
What listeners hear of a store. Operations and changes of the listeners come in any order (`Act`), on any database;
`announced_run` says that every listener hears, once and in order, exactly the changes that are due to it: those that
are made from when it is added until the listeners are cleared. Which changes an operation makes follows from what
the database answers to its write (`changes`). Answers and statements are those of a store that nobody listens to.

Hearing is looked at one change at a time (`Hearing`), so that listeners could also come and go between the changes
of one operation.
-/
import Mathlib.Data.List.Nodup
import TypedStorage.Proofs.Store.Answers

namespace TypedStorage

/-! ## Hearing -/

/-- What matters to listeners. -/
inductive Moment where
  | added
  | cleared
  | changed (c : Change)

namespace Moment

/-- The changes up to the next clearing. -/
def untilCleared : List Moment → List Change
  | [] => []
  | .cleared :: _ => []
  | .added :: ms => untilCleared ms
  | .changed c :: ms => c :: untilCleared ms

/-- The changes that are due to a listener, given by its number: from when it is added to the next clearing. -/
def due : Nat → List Moment → List Change
  | _, [] => []
  | n, .cleared :: ms => due n ms
  | n, .changed _ :: ms => due n ms
  | 0, .added :: ms => untilCleared ms
  | n + 1, .added :: ms => due n ms

end Moment

/-- The listeners of now, numbered as they were added, and what was heard. -/
structure Hearing where
  signals : SignalManager Nat
  added : Nat
  heard : List (Delivery Nat)

namespace Hearing

def start : Hearing := ⟨.empty, 0, []⟩

def step (h : Hearing) : Moment → Hearing
  | .added => { h with signals := h.signals.add h.added, added := h.added + 1 }
  | .cleared => { h with signals := h.signals.clear }
  | .changed c => { h with heard := h.heard ++ h.signals.emit c }

def run (h : Hearing) (ms : List Moment) : Hearing := ms.foldl step h

/-- What a listener heard, in order. -/
def heardBy (h : Hearing) (n : Nat) : List Change := (h.heard.filter fun d => d.listener = n).map (·.change)

/-- Listeners are there once, and are among those that were added. -/
structure Numbered (h : Hearing) : Prop where
  once : h.signals.listeners.Nodup
  lt : ∀ n ∈ h.signals.listeners, n < h.added

/-- What a listener is still to hear: one that is there until the clearing, one that was cleared nothing. -/
def pending (h : Hearing) (n : Nat) (ms : List Moment) : List Change :=
  if n ∈ h.signals.listeners then Moment.untilCleared ms
  else if n < h.added then []
  else Moment.due (n - h.added) ms

variable {h : Hearing}

theorem Numbered.step (hn : Numbered h) (m : Moment) : Numbered (h.step m) := by
  cases m with
  | added =>
    refine ⟨?_, ?_⟩
    · refine List.nodup_append.2 ⟨hn.once, List.nodup_singleton _, ?_⟩
      rintro n hmem _ hlast rfl
      rw [List.mem_singleton.1 hlast] at hmem
      exact Nat.lt_irrefl _ (hn.lt _ hmem)
    · intro n hmem
      rcases List.mem_append.1 hmem with hmem | hlast
      · exact Nat.lt_succ_of_lt (hn.lt n hmem)
      · rw [List.mem_singleton.1 hlast]
        exact Nat.lt_succ_self _
  | cleared => exact ⟨List.nodup_nil, fun _ hmem => by cases hmem⟩
  | changed c => exact ⟨hn.once, hn.lt⟩

/-- Of one change a listener hears once, if it is there. -/
theorem Numbered.heardBy_emit (hn : Numbered h) (n : Nat) (c : Change) :
    ((h.signals.emit c).filter fun d => d.listener = n).map (·.change) = if n ∈ h.signals.listeners then [c] else [] := by
  have hfilter : (h.signals.emit c).filter (fun d => d.listener = n) =
      (h.signals.listeners.filter (· = n)).map (⟨·, c⟩) := by
    rw [SignalManager.emit, List.filter_map]
    rfl
  have hcount : h.signals.listeners.filter (· = n) = List.replicate (h.signals.listeners.count n) n := by
    rw [← List.filter_beq]
    rfl
  rw [hfilter, hcount, List.map_replicate, List.map_replicate]
  split
  · next hmem => rw [List.count_eq_one_of_mem hn.once hmem, List.replicate_one]
  · next hmem => rw [List.count_eq_zero_of_not_mem hmem, List.replicate_zero]

theorem Numbered.heardBy_step_changed (hn : Numbered h) (n : Nat) (c : Change) :
    (h.step (.changed c)).heardBy n = h.heardBy n ++ if n ∈ h.signals.listeners then [c] else [] := by
  rw [heardBy, Hearing.step, List.filter_append, List.map_append, hn.heardBy_emit n c]
  rfl

/-- **What a listener has heard and is still to hear is the same after every moment.** -/
theorem Numbered.step_pending (hn : Numbered h) (n : Nat) (m : Moment) (ms : List Moment) :
    (h.step m).heardBy n ++ (h.step m).pending n ms = h.heardBy n ++ h.pending n (m :: ms) := by
  cases m with
  | added =>
    show h.heardBy n ++ _ = _
    congr 1
    rcases Nat.lt_trichotomy n h.added with hlt | rfl | hlt
    · have hne : n ≠ h.added := Nat.ne_of_lt hlt
      simp [pending, Hearing.step, SignalManager.add, Moment.untilCleared, hlt, hne, Nat.lt_succ_of_lt hlt]
    · have hout : h.added ∉ h.signals.listeners := fun hmem => Nat.lt_irrefl _ (hn.lt _ hmem)
      simp [pending, Hearing.step, SignalManager.add, Moment.due, hout]
    · have hout : n ∉ h.signals.listeners := fun hmem => Nat.lt_asymm hlt (hn.lt n hmem)
      obtain ⟨k, rfl⟩ := Nat.exists_eq_add_of_lt hlt
      have hold : h.added + k + 1 - h.added = k + 1 := by omega
      have hnew : h.added + k + 1 - (h.added + 1) = k := by omega
      have hne : h.added + k + 1 ≠ h.added := by omega
      have hlt' : ¬ h.added + k < h.added := by omega
      have hlt'' : ¬ h.added + k + 1 < h.added := by omega
      simp [pending, Hearing.step, SignalManager.add, Moment.due, hout, hold, hnew, hne, hlt', hlt'']
  | cleared =>
    show h.heardBy n ++ _ = _
    congr 1
    by_cases hmem : n ∈ h.signals.listeners
    · have hlt := hn.lt n hmem
      simp [pending, Hearing.step, SignalManager.clear, SignalManager.empty, Moment.untilCleared, hmem, hlt]
    · rw [pending, pending, if_neg hmem, Moment.due]
      exact if_neg List.not_mem_nil
  | changed c =>
    rw [hn.heardBy_step_changed, List.append_assoc]
    congr 1
    by_cases hmem : n ∈ h.signals.listeners
    · simp [pending, Hearing.step, Moment.untilCleared, hmem]
    · rw [pending, pending, if_neg hmem, if_neg hmem, Moment.due]
      exact if_neg hmem

theorem Numbered.heardBy_run (hn : Numbered h) (n : Nat) (ms : List Moment) :
    (h.run ms).heardBy n = h.heardBy n ++ h.pending n ms := by
  induction ms generalizing h with
  | nil =>
    have hnone : h.pending n [] = [] := by
      rw [pending]
      split
      · rfl
      · split <;> rfl
    rw [hnone, List.append_nil]
    rfl
  | cons m ms ih =>
    show ((h.step m).run ms).heardBy n = _
    rw [ih (hn.step m), hn.step_pending]

theorem numbered_start : Numbered start := ⟨List.nodup_nil, fun _ hmem => by cases hmem⟩

/-- Of changes alone the listeners of now hear, one after the other. -/
theorem run_changed (h : Hearing) (changes : List Change) :
    h.run (changes.map .changed) = { h with heard := h.heard ++ h.signals.emitAll changes } := by
  induction changes generalizing h with
  | nil => simp [run, SignalManager.emitAll]
  | cons c changes ih =>
    show (h.step (.changed c)).run (changes.map .changed) = _
    rw [ih]
    simp [Hearing.step, SignalManager.emitAll]

end Hearing

/-! ## What an operation announces -/

variable {σ α : Type}

namespace RecordSchema

variable (S : RecordSchema α)

/-- A record is written: the table, the text of its key, and all its values. -/
def written (type : ChangeType) (x : α) : Change := ⟨type, S.table, some (S.keyValue x).idText, S.fieldValues x⟩

/-- The record of a key is deleted; no values are told. -/
def deleted (key : Scalar) : Change := ⟨.delete, S.table, some key.idText, .empty⟩

/-- The query by which an operation writes. -/
def writeQuery? : Operation α → Option Query
  | .create x => some (S.insertQuery x)
  | .createMany xs => some (S.insertManyQuery xs)
  | .update x => some (S.updateQuery x)
  | .upsert x => some (S.upsertQuery x)
  | .delete key => some (S.deleteQuery key)
  | .deleteMany keys => some (S.deleteManyQuery keys)
  | .getById _ | .listAll | .find _ | .findOne _ => none

/-- The changes that an operation makes whose write affected so many rows. -/
def changesOf : Operation α → Nat → List Change
  | .create x, _ => [S.written .insert x]
  | .createMany xs, _ => xs.map (S.written .insert)
  | .upsert x, _ => [S.written .upsert x]
  | .update x, affected => if 0 < affected then [S.written .update x] else []
  | .delete key, affected => if 0 < affected then [S.deleted key] else []
  | .deleteMany keys, affected => if 0 < affected then keys.map S.deleted else []
  | .getById _, _ | .listAll, _ | .find _, _ | .findOne _, _ => []

/-- The changes that an operation makes: none where it does not write, or the database says no. -/
def changes (db : Database σ) (op : Operation α) (state : σ) : List Change :=
  match S.writeQuery? op with
  | none => []
  | some q =>
    match (db.execute q state).1 with
    | .ok affected => S.changesOf op affected
    | .error _ => []

end RecordSchema

namespace RecordStore

/-- What is heard of an operation. -/
def heardOf (s : RecordStore σ Nat α) (op : Operation α) (state : σ) : List (Delivery Nat) :=
  match (s.perform op state).1 with
  | .ok outcome => outcome.heard
  | .error _ => []

/-- Listeners make no difference to an answer. -/
theorem answer_signals (db : Database σ) (S : RecordSchema α) (signals signals' : Option (SignalManager Nat))
    (op : Operation α) (state : σ) : (⟨db, S, signals⟩ : RecordStore σ Nat α).answer op state =
      (⟨db, S, signals'⟩ : RecordStore σ Nat α).answer op state := by
  cases op with
  | create x => rw [answer_create, answer_create]
  | createMany xs => rw [answer_createMany, answer_createMany]
  | getById key => rw [answer_getById, answer_getById]; rfl
  | listAll => rw [answer_listAll, answer_listAll, answer_find, answer_find]; rfl
  | find q => rw [answer_find, answer_find]; rfl
  | findOne q => rw [answer_findOne, answer_findOne]; rfl
  | update x => rw [answer_update, answer_update]
  | upsert x => rw [answer_upsert, answer_upsert]
  | delete key => rw [answer_delete, answer_delete]
  | deleteMany keys => rw [answer_deleteMany, answer_deleteMany]

theorem announce_nil {κ : Type} (s : RecordStore σ κ α) : s.announce [] = [] := by
  unfold announce
  split <;> rfl

/-- Of an operation that only reads nothing is heard. -/
theorem heardOf_read {β : Type} {s : RecordStore σ Nat α} {op : Operation α} {read : Access σ β} {reply : β → Reply α}
    (h : s.perform op = do return ⟨reply (← read), []⟩) (state : σ) : s.heardOf op state = [] := by
  rw [heardOf, h, Access.bind_apply]
  rcases read state with ⟨_ | _, _⟩ <;> rfl

/-- Of an operation that writes the changes are heard that follow from the count of rows. -/
theorem heardOf_write {s : RecordStore σ Nat α} {op : Operation α} {q : Query} (reply : Nat → Reply α)
    (hq : s.schema.writeQuery? op = some q)
    (h : s.perform op = do
      let affected ← s.database.execute q
      return ⟨reply affected, s.announce (s.schema.changesOf op affected)⟩) (state : σ) :
    s.heardOf op state = s.announce (s.schema.changes s.database op state) := by
  simp only [heardOf, h, Access.bind_apply, RecordSchema.changes, hq]
  rcases s.database.execute q state with ⟨_ | _, _⟩
  · exact s.announce_nil.symm
  · rfl

/-- **An operation announces the changes that it makes**, in order. -/
theorem heardOf_eq (s : RecordStore σ Nat α) (op : Operation α) (state : σ) :
    s.heardOf op state = s.announce (s.schema.changes s.database op state) := by
  cases op with
  | create x => exact heardOf_write (fun _ => .record x) rfl (by rw [perform, create, bind_assoc]; rfl) state
  | createMany xs => exact heardOf_write .count rfl (by rw [perform, createMany, bind_assoc]; rfl) state
  | update x => exact heardOf_write (fun n => .flag (0 < n)) rfl (by rw [perform, update, bind_assoc]; rfl) state
  | upsert x => exact heardOf_write (fun _ => .record x) rfl (by rw [perform, upsert, bind_assoc]; rfl) state
  | delete key => exact heardOf_write (fun n => .flag (0 < n)) rfl (by rw [perform, delete, bind_assoc]; rfl) state
  | deleteMany keys => exact heardOf_write .count rfl (by rw [perform, deleteMany, bind_assoc]; rfl) state
  | getById | listAll | find | findOne =>
    rw [RecordSchema.changes, RecordSchema.writeQuery?, announce_nil]
    exact heardOf_read rfl state

end RecordStore

/-! ## Sessions -/

/-- What is done with a store and its signal manager. -/
inductive Act (α : Type) where
  | perform (op : Operation α)
  | add
  | clear

def Act.operation? : Act α → Option (Operation α)
  | .perform op => some op
  | .add | .clear => none

/-- A database and the listeners of a store, in use. -/
structure StoreSession (σ α : Type) where
  state : σ
  hearing : Hearing
  replies : List (Except StoreError (Reply α))

namespace StoreSession

variable (db : Database σ) (S : RecordSchema α)

/-- The store of a session, with the listeners of now. -/
def store (s : StoreSession σ α) : RecordStore σ Nat α := ⟨db, S, some s.hearing.signals⟩

def step (s : StoreSession σ α) : Act α → StoreSession σ α
  | .perform op =>
    { state := ((s.store db S).answer op s.state).2
      hearing := { s.hearing with heard := s.hearing.heard ++ (s.store db S).heardOf op s.state }
      replies := s.replies ++ [((s.store db S).answer op s.state).1] }
  | .add => { s with hearing := s.hearing.step .added }
  | .clear => { s with hearing := s.hearing.step .cleared }

/-- The session after these acts, from a store without listeners. -/
def run (acts : List (Act α)) (state : σ) : StoreSession σ α := acts.foldl (step db S) ⟨state, .start, []⟩

/-- What the acts are to listeners, by the answers that the database gives to a store that nobody listens to. -/
def moments : List (Act α) → σ → List Moment
  | [], _ => []
  | .add :: acts, state => .added :: moments acts state
  | .clear :: acts, state => .cleared :: moments acts state
  | .perform op :: acts, state =>
    (S.changes db op state).map .changed ++
      moments acts ((⟨db, S, none⟩ : RecordStore σ Nat α).answer op state).2

/-- What an act changes for listeners. -/
theorem hearing_perform (s : StoreSession σ α) (op : Operation α) :
    (s.step db S (.perform op)).hearing = s.hearing.run ((S.changes db op s.state).map .changed) := by
  rw [Hearing.run_changed]
  show { s.hearing with heard := s.hearing.heard ++ (s.store db S).heardOf op s.state } = _
  rw [RecordStore.heardOf_eq]
  rfl

theorem answer_store (s : StoreSession σ α) (op : Operation α) :
    (s.store db S).answer op s.state = (⟨db, S, none⟩ : RecordStore σ Nat α).answer op s.state :=
  RecordStore.answer_signals db S _ _ op s.state

/-- **A session is a quiet run of its operations**, and a hearing of what they change. -/
theorem foldl_step (acts : List (Act α)) (s : StoreSession σ α) : acts.foldl (step db S) s =
    ⟨((⟨db, S, none⟩ : RecordStore σ Nat α).run (acts.filterMap Act.operation?) s.state).2,
      s.hearing.run (moments db S acts s.state),
      s.replies ++ ((⟨db, S, none⟩ : RecordStore σ Nat α).run (acts.filterMap Act.operation?) s.state).1⟩ := by
  induction acts generalizing s with
  | nil => simp [RecordStore.run, moments, Hearing.run]
  | cons act acts ih =>
    rw [List.foldl_cons, ih]
    cases act with
    | add => rfl
    | clear => rfl
    | perform op =>
      have hstate : (s.step db S (.perform op)).state = ((⟨db, S, none⟩ : RecordStore σ Nat α).answer op s.state).2 :=
        congrArg Prod.snd (answer_store db S s op)
      have hreplies : (s.step db S (.perform op)).replies =
          s.replies ++ [((⟨db, S, none⟩ : RecordStore σ Nat α).answer op s.state).1] :=
        congrArg (fun r => s.replies ++ [r.1]) (answer_store db S s op)
      rw [hearing_perform, hstate, hreplies, List.append_assoc]
      simp [moments, Hearing.run, RecordStore.run, Act.operation?]

end StoreSession

/-! ## Statements -/

/-- An access that is written down with the statements that it sends. -/
def Access.noting {β : Type} (statements : List Compiled) (a : Access σ β) : Access (σ × List Compiled) β :=
  fun (state, log) => ((a state).1, ((a state).2, log ++ statements))

/-- The database that writes down what it is sent. -/
def Database.logged (db : Database σ) : Database (σ × List Compiled) where
  label := db.label
  tableExists name := (db.tableExists name).noting []
  createTable d := (db.createTable d).noting [⟨d.createSql, []⟩]
  write c := (db.write c).noting [c.compile]
  read c := (db.read c).noting [c.compile]

namespace StoreSession

variable (db : Database σ) (S : RecordSchema α) (acts : List (Act α)) (state : σ)

/-- The operations among the acts, by a store without signals. -/
def quiet : List (Except StoreError (Reply α)) × σ :=
  (⟨db, S, none⟩ : RecordStore σ Nat α).run (acts.filterMap Act.operation?) state

/-- What listeners and callers can count on. -/
structure Announced : Prop where
  /-- Every listener hears what is due to it, each change once and in order. -/
  heard : ∀ n, (run db S acts state).hearing.heardBy n = Moment.due n (moments db S acts state)
  /-- The answers are those of a store without signals. -/
  replies : (run db S acts state).replies = (quiet db S acts state).1
  /-- So is what becomes of the database, -/
  database : (run db S acts state).state = (quiet db S acts state).2
  /-- and what it is sent. -/
  statements : (run db.logged S acts (state, [])).state.2 = (quiet db.logged S acts (state, [])).2.2

/--
**Changes are announced to those who listen**, whatever the database answers, in every sequence of operations and of
changes of the listeners; and listening changes nothing else.
-/
theorem announced_run : Announced db S acts state where
  heard n := by
    rw [run, foldl_step, Hearing.numbered_start.heardBy_run]
    simp [Hearing.heardBy, Hearing.pending, Hearing.start, SignalManager.empty]
  replies := by
    rw [run, foldl_step, List.nil_append]
    rfl
  database := by
    rw [run, foldl_step]
    rfl
  statements := by
    rw [run, foldl_step]
    rfl

end StoreSession

end TypedStorage
