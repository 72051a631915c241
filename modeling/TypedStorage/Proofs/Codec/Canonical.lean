/-
Which kinds keep every value under one spelling (`canonical_iff`): texts, which are kept as they are, bytes, whose base64
is read in no other form than it is written in, and the two booleans. The other four kinds read more than they write: a
sign before a number, a point after it, an instant in fewer digits, and a document with blanks in it.
-/
import TypedStorage.Proofs.Codec.Reread

namespace TypedStorage.Tagged

open Text

/-- Values of the kind are read only from what they are written as, so two slots with one value hold the same bytes. -/
structure Canonical (k : ValueKind) : Prop where
  encode_of_decode? : ∀ b v, decode? b k = some v → v.encode = b
  slots : ∀ b b' v, decode? b k = some v → decode? b' k = some v → b = b'

variable {k : ValueKind} {b : List UInt8} {v : Tagged}

/-- The payload is all that a kind can have a second spelling of. -/
theorem canonical_of_payload (h : ∀ s v, ofPayload? k s = some v → v.payload = s) : Canonical k := by
  have hread : ∀ b v, decode? b k = some v → v.encode = b := by
    intro b v hv
    obtain ⟨s, rfl, hs⟩ := eq_append_of_decode? hv
    rw [encode, kind_of_ofPayload? hs, h s v hs]
  exact ⟨hread, fun b b' v hb hb' => (hread b v hb).symm.trans (hread b' v hb')⟩

theorem canonical_string : Canonical .string := by
  refine canonical_of_payload fun s v h => ?_
  cases h
  rfl

theorem canonical_bytes : Canonical .bytes := by
  refine canonical_of_payload fun s v h => ?_
  obtain ⟨bytes, hbytes, rfl⟩ := Option.map_eq_some_iff.1 h
  exact Base64.text_of_ofText? hbytes

theorem canonical_bool : Canonical .bool := by
  refine canonical_of_payload fun s v h => ?_
  dsimp only [ofPayload?] at h
  split_ifs at h with htrue hfalse
  · cases h
    exact htrue.symm
  · cases h
    exact hfalse.symm

/-- A payload that is read and not written. -/
theorem not_canonical_of_payload {s : String} (hs : ofPayload? k s = some v) (hv : v.payload ≠ s) : ¬Canonical k := by
  intro h
  have he := h.encode_of_decode? _ v (by rw [decode?_append, hs])
  rw [encode, kind_of_ofPayload? hs, List.append_cancel_left_eq] at he
  have hback := congrArg ofUtf8? he
  rw [ofUtf8?_utf8Bytes, ofUtf8?_utf8Bytes] at hback
  exact hv (Option.some.inj hback)

theorem not_canonical_int : ¬Canonical .int := by
  have hs : ofPayload? .int "+7" = some (int 7) := by rfl
  exact not_canonical_of_payload hs (by decide +kernel)

theorem not_canonical_double : ¬Canonical .double := by
  have hs : ofPayload? .double "1.0" = some (double (.finite ⟨false, 0x3ff0000000000000, by decide⟩)) := by
    rw [ofPayload?, Option.map_eq_some_iff]
    exact ⟨_, by decide +kernel, rfl⟩
  exact not_canonical_of_payload hs (by decide +kernel)

theorem not_canonical_date : ¬Canonical .date := by
  have hs : ofPayload? .date "1970-01-01T00:00:00Z" = some (date ⟨0, 0, by decide, by decide, by decide⟩) := by
    rw [ofPayload?, Option.map_eq_some_iff]
    exact ⟨_, by decide +kernel, rfl⟩
  exact not_canonical_of_payload hs (by decide +kernel)

theorem not_canonical_json : ¬Canonical .json := by
  have hs : ofPayload? .json (Base64.text (utf8Bytes "[ ]")) = some (json ⟨.array [], by trivial⟩) := by
    simp [ofPayload?, Base64.ofText?_text, ofUtf8?_utf8Bytes]
    rfl
  exact not_canonical_of_payload hs (by decide +kernel)

/-- **Texts, bytes and booleans have one spelling each**, and no other kind keeps its values so. -/
theorem canonical_iff (k : ValueKind) : Canonical k ↔ k = .string ∨ k = .bytes ∨ k = .bool := by
  constructor
  · intro h
    cases k with
    | int => exact absurd h not_canonical_int
    | double => exact absurd h not_canonical_double
    | date => exact absurd h not_canonical_date
    | json => exact absurd h not_canonical_json
    | string | bytes | bool => decide
  · rintro (rfl | rfl | rfl)
    · exact canonical_string
    · exact canonical_bytes
    · exact canonical_bool

end TypedStorage.Tagged
