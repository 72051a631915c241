/-
Which values of a storable type come back from their bytes. A value is written as a tagged value, so it comes back where
that does and its type takes it: every text, every sequence of bytes, number and boolean, the instants with a year of four
digits, and JSON that is not nested too deeply and whose doubles are read back. Bytes of another kind give nothing.
-/
import TypedStorage.Codec.Storable
import TypedStorage.Proofs.Codec.Tagged
import TypedStorage.Proofs.Scalar.Kept

namespace TypedStorage

namespace Storable

variable {α β : Type} [Storable α] [Storable β]

/-- All values of the type are written as values of its kind. -/
class Uniform (α : Type) [Storable α] : Prop where
  kind_of_toTagged : ∀ {x : α} {v : Tagged}, toTagged x = .ok v → v.kind = kind α

/-- The value is written as one that comes back, and its type takes that for the value. -/
def ComesBack (x : α) : Prop := ∃ v, toTagged x = .ok v ∧ ofTagged? v = some x ∧ v.Recoverable ∧ v.DoublesReadBack

theorem encode_eq_ok {x : α} {b : List UInt8} (h : encode x = .ok b) : ∃ v, toTagged x = .ok v ∧ b = v.encode := by
  unfold encode at h
  cases hv : toTagged x with
  | error e =>
    rw [hv] at h
    cases h
  | ok v =>
    rw [hv] at h
    exact ⟨v, rfl, (Except.ok.inj h).symm⟩

theorem decode?_of_comesBack [Uniform α] {x : α} {b : List UInt8} (hb : encode x = .ok b) (hx : ComesBack x) :
    decode? b = some x := by
  obtain ⟨v, hv, rfl⟩ := encode_eq_ok hb
  obtain ⟨v', hv', hread, hrec, hdoubles⟩ := hx
  rw [hv] at hv'
  cases hv'
  rw [decode?, ← Uniform.kind_of_toTagged hv, Tagged.decode?_encode, Tagged.ofPayload?_payload hdoubles hrec,
    Option.bind_some, hread]

/-- A type of another kind finds nothing in the bytes. -/
theorem decode?_of_kind_ne [Uniform α] {x : α} {b : List UInt8} (hb : encode x = .ok b) (hk : kind β ≠ kind α) :
    decode? (α := β) b = none := by
  obtain ⟨v, hv, rfl⟩ := encode_eq_ok hb
  rw [decode?, Tagged.decode?_encode_of_ne, Option.bind_none]
  rwa [Uniform.kind_of_toTagged hv]

/-! ## The storable types -/

instance : Uniform String := ⟨by rintro _ _ ⟨⟩; rfl⟩
instance : Uniform (List UInt8) := ⟨by rintro _ _ ⟨⟩; rfl⟩
instance : Uniform Int64 := ⟨by rintro _ _ ⟨⟩; rfl⟩
instance : Uniform Int32 := ⟨by rintro _ _ ⟨⟩; rfl⟩
instance : Uniform Double := ⟨by rintro _ _ ⟨⟩; rfl⟩
instance : Uniform Bool := ⟨by rintro _ _ ⟨⟩; rfl⟩
instance : Uniform Timestamp := ⟨by rintro _ _ ⟨⟩; rfl⟩
instance : Uniform Json.Document := ⟨by rintro _ _ ⟨⟩; rfl⟩

theorem toTagged_mk {γ : Type} [Json.Writable γ] [Json.Readable γ] (x : γ) : toTagged (AsJson.mk x) =
    match Json.Writable.write x with
    | .ok d => .ok (.json d)
    | .error e => .error (.json e) := rfl

theorem toTagged_asJson {γ : Type} [Json.Writable γ] [Json.Readable γ] {x : AsJson γ} {v : Tagged} :
    toTagged x = .ok v ↔ ∃ d, Json.Writable.write x.value = .ok d ∧ v = .json d := by
  rw [show x = AsJson.mk x.value from rfl, toTagged_mk]
  cases Json.Writable.write x.value with
  | ok d => simp [eq_comm]
  | error e => simp

instance {γ : Type} [Json.Writable γ] [Json.Readable γ] : Uniform (AsJson γ) where
  kind_of_toTagged h := by
    obtain ⟨d, -, rfl⟩ := toTagged_asJson.1 h
    rfl

/-- The values of the nine sorts of storable types that come back. -/
structure Range : Prop where
  text : ∀ s : String, ComesBack s
  bytes : ∀ b : List UInt8, ComesBack b
  int64 : ∀ i : Int64, ComesBack i
  int32 : ∀ i : Int32, ComesBack i
  double : ∀ x : Double, ComesBack x
  bool : ∀ b : Bool, ComesBack b
  date : ∀ t : Timestamp, ComesBack t ↔ 0 ≤ t.year ∧ t.year ≤ 9999
  document : ∀ d : Json.Document, ComesBack d ↔ d.tree.depth ≤ 127 ∧ d.tree.DoublesReadBack
  /-- A value that is kept as JSON comes back where its document does, if it is read from that. -/
  asJson : ∀ {γ : Type} [Json.Writable γ] [Json.Readable γ] (x : γ), ComesBack (AsJson.mk x) ↔
    ∃ d, Json.Writable.write x = .ok d ∧ Json.readDocument? d = some x ∧ d.tree.depth ≤ 127 ∧ d.tree.DoublesReadBack

theorem range : Range where
  text s := ⟨.string s, rfl, rfl, trivial, trivial⟩
  bytes b := ⟨.bytes b, rfl, rfl, trivial, trivial⟩
  int64 i := ⟨.int i, rfl, rfl, trivial, trivial⟩
  int32 i := ⟨.int (Int64.ofInt i.toInt), rfl, narrow?_ofInt i, trivial, trivial⟩
  double x := ⟨.double x, rfl, rfl, trivial, trivial⟩
  bool b := ⟨.bool b, rfl, rfl, trivial, trivial⟩
  date t := by
    refine ⟨?_, fun h => ⟨.date t, rfl, rfl, h, trivial⟩⟩
    rintro ⟨v, ⟨⟩, -, h, -⟩
    exact h
  document d := by
    refine ⟨?_, fun ⟨hd, hx⟩ => ⟨.json d, rfl, rfl, hd, hx⟩⟩
    rintro ⟨v, ⟨⟩, -, hd, hx⟩
    exact ⟨hd, hx⟩
  asJson {γ} _ _ x := by
    have hread : ∀ d, ofTagged? (.json d) = some (AsJson.mk x) ↔ Json.readDocument? d = some x := by
      intro d
      show (Json.readDocument? d).map AsJson.mk = some (AsJson.mk x) ↔ _
      cases Json.readDocument? (α := γ) d <;> simp
    constructor
    · rintro ⟨v, hv, hx, hd, hdoubles⟩
      obtain ⟨d, hw, rfl⟩ := toTagged_asJson.1 hv
      exact ⟨d, hw, (hread d).1 hx, hd, hdoubles⟩
    · rintro ⟨d, hw, hx, hd, hdoubles⟩
      exact ⟨.json d, toTagged_asJson.2 ⟨d, hw, rfl⟩, (hread d).2 hx, hd, hdoubles⟩

end Storable

namespace AsJson

variable {γ : Type}

/-- Both ways of keeping a value as JSON write the same bytes, -/
theorem encode_mk [Json.Writable γ] [Json.Readable γ] (x : γ) : Storable.encode (AsJson.mk x) = AsJson.encode x := by
  rw [Storable.encode, Storable.toTagged_mk, AsJson.encode]
  cases Json.Writable.write x <;> rfl

/-- and read them alike. -/
theorem decode?_mk [Json.Writable γ] [Json.Readable γ] (b : List UInt8) :
    (Storable.decode? b : Option (AsJson γ)) = (AsJson.decode? b).map AsJson.mk := by
  show (Tagged.decode? b .json).bind (Storable.ofTagged? (α := AsJson γ)) = _
  unfold AsJson.decode?
  rcases Tagged.decode? b .json with _ | v
  · rfl
  · cases v <;> rfl

end AsJson

end TypedStorage
