/-
What preferences in memory answer after any sequence of calls (`answers_run`). Under each key stands what the last call
that left something there has left: bytes, or nothing where it removed them. A value that cannot be encoded leaves no
trace. So a read depends on the bytes that were written last and on the type that reads them.

Clones of a manager are handles on one memory, so it makes no difference which of them a call goes through, and a run is
a list of calls.
-/
import TypedStorage.Preferences.Typed
import TypedStorage.Proofs.Codec.Range

namespace TypedStorage

/-- A call that may change what is kept. -/
inductive PreferenceCall where
  | set {α : Type} [Storable α] (key : String) (x : α)
  | setJson {α : Type} [Json.Writable α] (key : String) (x : α)
  | remove (key : String)
  | put (key : String) (bytes : List UInt8)

namespace PreferenceCall

open PreferencesManager

def key : PreferenceCall → String
  | @set _ _ key _ | @setJson _ _ key _ | remove key | put key _ => key

def access : PreferenceCall → PreferencesAccess (KeyMap (List UInt8)) Unit
  | @set _ _ key x => memory.set key x
  | @setJson _ _ key x => memory.setJson key x
  | remove key => memory.remove key
  | put key bytes => memory.put key bytes

/-- What is kept after some calls; one that fails does not end the run. -/
def run (calls : List PreferenceCall) : KeyMap (List UInt8) := calls.foldl (fun m c => (c.access m).2) .empty

/-- What the call is to leave under its key, bytes or nothing, or why there is no encoding. -/
def left : PreferenceCall → Except CodecError (Option (List UInt8))
  | @set _ _ _ x => (Storable.encode x).map some
  | @setJson _ _ _ x => (AsJson.encode x).map some
  | remove _ => .ok none
  | put _ bytes => .ok (some bytes)

/-- The call leaves this under the key. -/
def Leaves (c : PreferenceCall) (k : String) (kept : Option (List UInt8)) : Prop := c.key = k ∧ c.left = .ok kept

/-- The call is the last that leaves anything under the key. -/
def IsLast (c : PreferenceCall) (k : String) (calls : List PreferenceCall) : Prop :=
  ∃ before after, calls = before ++ c :: after ∧ (∃ kept, c.Leaves k kept) ∧ ∀ c' ∈ after, ∀ kept, ¬c'.Leaves k kept

/-- These bytes were written under the key last, and not removed. -/
def LastWritten (b : List UInt8) (k : String) (calls : List PreferenceCall) : Prop :=
  ∃ c : PreferenceCall, c.IsLast k calls ∧ c.Leaves k (some b)

/-- Something was written under the key after it was last removed. -/
def IsWritten (k : String) (calls : List PreferenceCall) : Prop :=
  ∃ before c after, calls = before ++ c :: after ∧ (∃ b, Leaves c k (some b)) ∧ ∀ c' ∈ after, ¬c'.Leaves k none

/-! ## One call -/

variable {k : String} {c : PreferenceCall} {calls : List PreferenceCall} {m : KeyMap (List UInt8)}

/-- A call puts or removes what it is to leave; without that it fails and does nothing. -/
theorem access_apply (c : PreferenceCall) (m : KeyMap (List UInt8)) : c.access m =
    match c.left with
    | .error e => (.error (.encoding e), m)
    | .ok (some b) => (.ok (), m.insert c.key b)
    | .ok none => (.ok (), m.erase c.key) := by
  have encoded : ∀ key (stored : Except CodecError (List UInt8)), memory.putEncoded key stored m =
      match stored.map some with
      | .error e => (.error (.encoding e), m)
      | .ok (some b) => (.ok (), m.insert key b)
      | .ok none => (.ok (), m.erase key) := by
    rintro key (e | b) <;> rfl
  cases c with
  | set key x => exact encoded key (Storable.encode x)
  | setJson key x => exact encoded key (AsJson.encode x)
  | remove key => rfl
  | put key bytes => rfl

/-- A call leaves under its key what it is to leave, -/
theorem get?_of_leaves {kept : Option (List UInt8)} (h : c.Leaves k kept) : (c.access m).2.get? k = kept := by
  obtain ⟨rfl, h⟩ := h
  rw [access_apply, h]
  cases kept with
  | none => rw [KeyMap.get?_erase, if_pos rfl]
  | some b => rw [KeyMap.get?_insert_self]

/-- and nothing else changes. -/
theorem get?_of_not_leaves (h : ∀ kept, ¬c.Leaves k kept) : (c.access m).2.get? k = m.get? k := by
  rw [access_apply]
  cases hc : c.left with
  | error e => rfl
  | ok kept =>
    have hk : k ≠ c.key := fun he => h kept ⟨he.symm, hc⟩
    cases kept with
    | none => rw [KeyMap.get?_erase, if_neg hk]
    | some b => rw [KeyMap.get?_insert_other _ hk]

/-! ## Runs -/

theorem run_append (before after : List PreferenceCall) :
    run (before ++ after) = after.foldl (fun m c => (c.access m).2) (run before) := List.foldl_append

/-- Under a key stands what the last call has left there. -/
theorem get?_foldl_of_not_leaves {after : List PreferenceCall} (h : ∀ c ∈ after, ∀ kept, ¬Leaves c k kept) :
    (after.foldl (fun m c => (c.access m).2) m).get? k = m.get? k := by
  induction after generalizing m with
  | nil => rfl
  | cons c after ih =>
    rw [List.foldl_cons, ih fun c' hc' => h c' (List.mem_cons_of_mem c hc'), get?_of_not_leaves (h c List.mem_cons_self)]

theorem get?_run_of_isLast {kept : Option (List UInt8)} (h : c.IsLast k calls) (hc : c.Leaves k kept) :
    (run calls).get? k = kept := by
  obtain ⟨before, after, rfl, -, hafter⟩ := h
  rw [run_append, List.foldl_cons, get?_foldl_of_not_leaves hafter, get?_of_leaves hc]

/-- The last call, if any leaves something under the key. -/
theorem exists_isLast_or (k : String) (calls : List PreferenceCall) :
    (∃ c : PreferenceCall, c.IsLast k calls) ∨ ∀ c ∈ calls, ∀ kept, ¬Leaves c k kept := by
  induction calls with
  | nil => exact .inr (by simp)
  | cons c calls ih =>
    rcases ih with ⟨c', before, after, rfl, hc', hafter⟩ | hnone
    · exact .inl ⟨c', c :: before, after, rfl, hc', hafter⟩
    · by_cases hc : ∃ kept, c.Leaves k kept
      · exact .inl ⟨c, [], calls, rfl, hc, hnone⟩
      · refine .inr fun c' hc' => ?_
        rcases List.mem_cons.1 hc' with rfl | hc'
        · exact not_exists.1 hc
        · exact hnone c' hc'

theorem get?_run_iff {b : List UInt8} : (run calls).get? k = some b ↔ LastWritten b k calls := by
  refine ⟨fun h => ?_, fun ⟨c, hlast, hc⟩ => get?_run_of_isLast hlast hc⟩
  rcases exists_isLast_or k calls with ⟨c, hlast⟩ | hnone
  · obtain ⟨-, -, -, ⟨kept, hc⟩, -⟩ := id hlast
    rw [get?_run_of_isLast hlast hc] at h
    exact ⟨c, hlast, h ▸ hc⟩
  · rw [run, get?_foldl_of_not_leaves hnone] at h
    cases h

/-- What has been written stays in some form until it is removed. -/
theorem isSome_get?_foldl {after : List PreferenceCall} (h : ∀ c ∈ after, ¬Leaves c k none) (hm : (m.get? k).isSome) :
    ((after.foldl (fun m c => (c.access m).2) m).get? k).isSome := by
  induction after generalizing m with
  | nil => exact hm
  | cons c after ih =>
    refine ih (fun c' hc' => h c' (List.mem_cons_of_mem c hc')) ?_
    by_cases hc : ∃ kept, c.Leaves k kept
    · obtain ⟨kept, hc⟩ := hc
      rw [get?_of_leaves hc]
      cases kept with
      | none => exact absurd hc (h c List.mem_cons_self)
      | some b => rfl
    · rwa [get?_of_not_leaves (not_exists.1 hc)]

theorem isSome_get?_run_iff : ((run calls).get? k).isSome ↔ IsWritten k calls := by
  constructor
  · intro h
    obtain ⟨b, hb⟩ := Option.isSome_iff_exists.1 h
    obtain ⟨c, ⟨before, after, he, -, hafter⟩, hc⟩ := get?_run_iff.1 hb
    exact ⟨before, c, after, he, ⟨b, hc⟩, fun c' hc' => hafter c' hc' none⟩
  · rintro ⟨before, c, after, rfl, ⟨b, hc⟩, hafter⟩
    rw [run_append, List.foldl_cons]
    refine isSome_get?_foldl hafter ?_
    rw [get?_of_leaves hc]
    rfl

/-- Calls on other keys are without effect on a key. -/
theorem get?_foldl_filter {n : KeyMap (List UInt8)} (h : m.get? k = n.get? k) :
    (calls.foldl (fun m c => (c.access m).2) m).get? k
      = ((calls.filter fun c => c.key = k).foldl (fun m c => (c.access m).2) n).get? k := by
  induction calls generalizing m n with
  | nil => exact h
  | cons c calls ih =>
    by_cases hk : c.key = k
    · rw [List.filter_cons_of_pos (by simpa using hk), List.foldl_cons, List.foldl_cons]
      refine ih ?_
      by_cases hc : ∃ kept, c.Leaves k kept
      · obtain ⟨kept, hc⟩ := hc
        rw [get?_of_leaves hc, get?_of_leaves hc]
      · rw [get?_of_not_leaves (not_exists.1 hc), get?_of_not_leaves (not_exists.1 hc), h]
    · rw [List.filter_cons_of_neg (by simpa using hk), List.foldl_cons]
      refine ih ?_
      rw [get?_of_not_leaves fun kept hc => hk hc.1, h]

/-! ## Answers -/

theorem contains_apply (k : String) (m : KeyMap (List UInt8)) : memory.contains k m = (.ok (m.get? k).isSome, m) := rfl

theorem getAs_apply (α : Type) [Storable α] (k : String) (m : KeyMap (List UInt8)) :
    memory.getAs α k m = (.ok ((m.get? k).bind Storable.decode?), m) := rfl

theorem getJson_apply (α : Type) [Json.Readable α] (k : String) (m : KeyMap (List UInt8)) :
    memory.getJson α k m = (.ok ((m.get? k).bind AsJson.decode?), m) := rfl

theorem kindOf_apply (k : String) (m : KeyMap (List UInt8)) :
    memory.kindOf k m = (.ok ((m.get? k).bind ValueKind.ofEncoded?), m) := rfl

/-- What a key is read as: its bytes, if it has any, as a value of a type, from JSON, and as a kind. -/
structure ReadAs (kept : Option (List UInt8)) (k : String) (m : KeyMap (List UInt8)) : Prop where
  contains : memory.contains k m = (.ok kept.isSome, m)
  getAs : ∀ (α : Type) [Storable α], memory.getAs α k m = (.ok (kept.bind Storable.decode?), m)
  getJson : ∀ (α : Type) [Json.Readable α], memory.getJson α k m = (.ok (kept.bind AsJson.decode?), m)
  kindOf : memory.kindOf k m = (.ok (kept.bind ValueKind.ofEncoded?), m)

theorem readAs_get? (k : String) (m : KeyMap (List UInt8)) : ReadAs (m.get? k) k m :=
  ⟨contains_apply k m, fun α _ => getAs_apply α k m, fun α _ => getJson_apply α k m, kindOf_apply k m⟩

/-- What is answered after some calls. -/
structure Answers (calls : List PreferenceCall) : Prop where
  /-- A key is there exactly when something was written under it after it was last removed. -/
  contains : ∀ k, ∃ there, memory.contains k (run calls) = (.ok there, run calls) ∧ (there = true ↔ IsWritten k calls)
  /-- It is read from the bytes that were written last, -/
  written : ∀ k b, LastWritten b k calls → ReadAs (some b) k (run calls)
  /-- and as nothing if there are none. -/
  absent : ∀ k, (¬∃ b, LastWritten b k calls) → ReadAs none k (run calls)
  /-- The type that a value was written as reads it, -/
  own : ∀ {α : Type} [Storable α] [Storable.Uniform α] k (x : α), (set k x).IsLast k calls → Storable.ComesBack x →
    memory.getAs α k (run calls) = (.ok (some x), run calls)
  /-- and no type of another kind finds anything. -/
  other : ∀ {α β : Type} [Storable α] [Storable.Uniform α] [Storable β] k (x : α), (set k x).IsLast k calls →
    Storable.kind β ≠ Storable.kind α → memory.getAs β k (run calls) = (.ok none, run calls)
  /-- Of one kind are the integers of 64 and 32 bits. The smaller type reads what it has a number for. -/
  narrow : ∀ k (i : Int64), (set k i).IsLast k calls → ∃ n : Option Int32,
    memory.getAs Int32 k (run calls) = (.ok n, run calls) ∧ (∀ j, n = some j ↔ j.toInt = i.toInt) ∧
      (n.isSome ↔ -0x80000000 ≤ i.toInt ∧ i.toInt < 0x80000000)
  /-- Both ways of keeping JSON are one. -/
  json : ∀ (α : Type) [Json.Writable α] [Json.Readable α] k,
    (∀ x : α, (setJson k x).access (run calls) = (set k (AsJson.mk x)).access (run calls)) ∧
    ∃ r, memory.getJson α k (run calls) = (.ok r, run calls) ∧
      memory.getAs (AsJson α) k (run calls) = (.ok (r.map AsJson.mk), run calls)
  /-- A value that cannot be encoded is refused, and nothing is changed; -/
  refused : ∀ c e, left c = .error e → c.access (run calls) = (.error (.encoding e), run calls)
  /-- no other call fails. -/
  accepted : ∀ c kept, left c = .ok kept → (c.access (run calls)).1 = .ok ()
  /-- Calls on other keys make no difference. -/
  alone : ∀ k, ∃ kept, ReadAs kept k (run calls) ∧ ReadAs kept k (run (calls.filter fun c => c.key = k))

/-- What is read of a key whose last call has set a value. -/
theorem getAs_of_isLast {α : Type} [Storable α] {x : α} (h : (set k x).IsLast k calls) :
    ∃ b, Storable.encode x = .ok b ∧ ReadAs (some b) k (run calls) := by
  obtain ⟨-, -, -, ⟨kept, hc⟩, -⟩ := id h
  have hget := get?_run_of_isLast h hc
  have hleft := hc.2
  rw [left] at hleft
  cases hb : Storable.encode x with
  | error e =>
    rw [hb] at hleft
    cases hleft
  | ok b =>
    rw [hb] at hleft
    cases hleft
    exact ⟨b, rfl, hget ▸ readAs_get? k (run calls)⟩

/-- **What preferences in memory answer after any run**, and which values come back. -/
theorem answers_run : (∀ calls, Answers calls) ∧ Storable.Range := by
  refine ⟨fun calls => ?_, Storable.range⟩
  exact {
    contains := fun k => ⟨_, contains_apply k (run calls), isSome_get?_run_iff⟩
    written := fun k b h => get?_run_iff.2 h ▸ readAs_get? k (run calls)
    absent := by
      intro k h
      have hnone : (run calls).get? k = none := Option.eq_none_iff_forall_ne_some.2 fun b hb => h ⟨b, get?_run_iff.1 hb⟩
      exact hnone ▸ readAs_get? k (run calls)
    own := by
      intro α _ _ k x hlast hx
      obtain ⟨b, hb, hread⟩ := getAs_of_isLast hlast
      rw [hread.getAs, Option.bind_some, Storable.decode?_of_comesBack hb hx]
    other := by
      intro α β _ _ _ k x hlast hkind
      obtain ⟨b, hb, hread⟩ := getAs_of_isLast hlast
      rw [hread.getAs, Option.bind_some, Storable.decode?_of_kind_ne hb hkind]
    narrow := by
      intro k i hlast
      obtain ⟨b, hb, hread⟩ := getAs_of_isLast hlast
      obtain rfl : (Tagged.int i).encode = b := Except.ok.inj hb
      refine ⟨narrow? i, ?_, fun j => toInt_of_narrow?, isSome_narrow?⟩
      have hpayload : Tagged.ofPayload? .int (Tagged.int i).payload = some (.int i) :=
        @Tagged.ofPayload?_payload (.int i) trivial trivial
      have hint : Tagged.decode? (Tagged.int i).encode (Storable.kind Int32) = some (.int i) := by
        rw [← hpayload]
        exact Tagged.decode?_encode (.int i)
      rw [hread.getAs, Option.bind_some, Storable.decode?, hint]
      rfl
    json := by
      intro α _ _ k
      refine ⟨fun x => ?_, _, getJson_apply α k (run calls), ?_⟩
      · rw [access, access, PreferencesManager.set, PreferencesManager.setJson, AsJson.encode_mk]
      · rw [getAs_apply]
        cases (run calls).get? k with
        | none => rfl
        | some b => rw [Option.bind_some, Option.bind_some, AsJson.decode?_mk]
    refused := fun c e h => by rw [access_apply, h]
    accepted := by
      intro c kept h
      rw [access_apply, h]
      cases kept <;> rfl
    alone := by
      intro k
      have h : (run calls).get? k = (run (calls.filter fun c => c.key = k)).get? k := get?_foldl_filter rfl
      exact ⟨_, readAs_get? k _, h ▸ readAs_get? k _⟩ }

end PreferenceCall

end TypedStorage
