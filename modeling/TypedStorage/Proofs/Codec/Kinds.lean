/-
Tags tell the kinds apart (`kindsApart`). The kind that bytes claim to be of is told by their first four, and the reader
goes by the same four, so what can be read at all can be read as one kind only, and as the kind it was written as. Of
what comes after the tag nothing is asked; it may itself begin like a tag.

For a storable type this means that its values are found by the types of its kind only. A type is free to write values
of another kind than its own; those of the codec do not (`Native.kind_of_toTagged`).
-/
import TypedStorage.Proofs.Codec.Range
import TypedStorage.Proofs.Codec.Reread

namespace TypedStorage

/-! ## The kind of bytes -/

namespace ValueKind

theorem mem_all (k : ValueKind) : k ∈ all := by cases k <;> decide

theorem tagBytes_of_ofEncoded? {b : List UInt8} {k : ValueKind} (h : ofEncoded? b = some k) : k.tagBytes = b.take 4 := by
  rw [ofEncoded?] at h
  simpa using List.find?_some h

/-- Bytes claim to be of the kind whose tag they begin with. -/
theorem ofEncoded?_eq_some_iff {b : List UInt8} {k : ValueKind} : ofEncoded? b = some k ↔ k.tagBytes = b.take 4 := by
  refine ⟨tagBytes_of_ofEncoded?, fun h => ?_⟩
  obtain ⟨k', hk'⟩ : ∃ k', ofEncoded? b = some k' := by
    rw [← Option.isSome_iff_exists, ofEncoded?, List.find?_isSome]
    exact ⟨k, mem_all k, decide_eq_true h⟩
  -- the search could stop at another kind, but no two have one tag
  rw [hk', Tagged.tagBytes_injective ((tagBytes_of_ofEncoded? hk').trans h.symm)]

end ValueKind

namespace Tagged

variable {b : List UInt8} {k k' : ValueKind} {v : Tagged}

theorem ofEncoded?_of_decode? (h : decode? b k = some v) : ValueKind.ofEncoded? b = some k := by
  rw [decode?, Option.ite_none_right_eq_some] at h
  exact ValueKind.ofEncoded?_eq_some_iff.2 h.1.symm

theorem kind_of_decode? (h : decode? b k = some v) : v.kind = k := by
  obtain ⟨s, hs⟩ := exists_payload_of_decode? h
  exact kind_of_ofPayload? hs

theorem ofEncoded?_encode (v : Tagged) : ValueKind.ofEncoded? v.encode = some v.kind :=
  ValueKind.ofEncoded?_eq_some_iff.2 (take_encode v).symm

end Tagged

/-! ## The kind of a type -/

namespace Storable

/-- The types of the codec: those that have a kind for themselves, integers of 32 bits, and all that JSON can carry. -/
inductive Native : (α : Type) → Storable α → Prop
  | text : Native String inferInstance
  | bytes : Native (List UInt8) inferInstance
  | int64 : Native Int64 inferInstance
  | int32 : Native Int32 inferInstance
  | double : Native Double inferInstance
  | bool : Native Bool inferInstance
  | date : Native Timestamp inferInstance
  | document : Native Json.Document inferInstance
  | asJson {γ : Type} [Json.Writable γ] [Json.Readable γ] : Native (AsJson γ) inferInstance

variable {α β : Type} [Storable α] [Storable β] {x : α} {v : Tagged} {b : List UInt8}

theorem Native.kind_of_toTagged (h : Native α ‹_›) (hv : toTagged x = .ok v) : v.kind = kind α := by
  cases h <;> exact Uniform.kind_of_toTagged hv

/-- What a type finds in the bytes of a value is of its own kind. -/
theorem kind_eq_of_decode? (hv : toTagged x = .ok v) (hb : encode x = .ok b) (h : (decode? b : Option β).isSome) :
    kind β = v.kind := by
  obtain ⟨v', hv', rfl⟩ := encode_eq_ok hb
  rw [hv] at hv'
  cases hv'
  by_contra hne
  rw [decode?, Tagged.decode?_encode_of_ne hne] at h
  cases h

end Storable

/-! ## All kinds and types -/

/-- What a tag tells. -/
structure KindsApart : Prop where
  /-- Bytes are read as a value of the kind that they claim to be of. -/
  read : ∀ b k v, Tagged.decode? b k = some v → ValueKind.ofEncoded? b = some k ∧ v.kind = k
  /-- No bytes can be read as two kinds. -/
  one : ∀ b k k', (Tagged.decode? b k).isSome → (Tagged.decode? b k').isSome → k = k'
  /-- What a value is written as claims to be of its kind, and is read as no other. -/
  written : ∀ v : Tagged, ValueKind.ofEncoded? v.encode = some v.kind ∧ ∀ k, k ≠ v.kind → Tagged.decode? v.encode k = none
  /-- A type finds something in the bytes of a value only if they were written as its kind, -/
  found : ∀ {α β : Type} [Storable α] [Storable β] (x : α) v b, Storable.toTagged x = .ok v → Storable.encode x = .ok b →
    (Storable.decode? b : Option β).isSome → Storable.kind β = v.kind
  /-- which for the types of the codec is the kind of the value's type. -/
  native : ∀ {α β : Type} [inst : Storable α] [Storable β] (x : α) b, Storable.Native α inst → Storable.encode x = .ok b →
    (Storable.decode? b : Option β).isSome → Storable.kind β = Storable.kind α

/-- **Tags tell the kinds apart**, whatever follows them. -/
theorem kindsApart : KindsApart where
  read _ _ _ h := ⟨Tagged.ofEncoded?_of_decode? h, Tagged.kind_of_decode? h⟩
  one b k k' h h' := by
    obtain ⟨v, hv⟩ := Option.isSome_iff_exists.1 h
    obtain ⟨v', hv'⟩ := Option.isSome_iff_exists.1 h'
    have he := Tagged.ofEncoded?_of_decode? hv
    rw [Tagged.ofEncoded?_of_decode? hv'] at he
    exact (Option.some.inj he).symm
  written v := ⟨Tagged.ofEncoded?_encode v, fun _ => Tagged.decode?_encode_of_ne⟩
  found _ _ _ hv hb h := Storable.kind_eq_of_decode? hv hb h
  native x b hx hb h := by
    obtain ⟨v, hv, -⟩ := Storable.encode_eq_ok hb
    rw [Storable.kind_eq_of_decode? hv hb h, hx.kind_of_toTagged hv]

end TypedStorage
