/-
What is kept as bytes comes back (`decode?_encode_iff`). Of all tagged values only two sorts do not: an instant
whose year has more than four digits or a sign, and a JSON document nested more than 127 deep. Those are
written all the same, and reading them gives nothing.

Of the text of doubles nothing is assumed where a double stands alone. In a document a double is read in two
roundings, and for a few doubles the second one lands next to the double that was written; so the theorem asks
of a document that its doubles are read back, and it says so of each document (`DoublesReadBack`).
-/
import TypedStorage.Codec.Tagged
import TypedStorage.Proofs.Base64
import TypedStorage.Proofs.Time.Text
import TypedStorage.Proofs.Json.RoundTrip

namespace TypedStorage.Tagged

open Text

/-- The values that come back: the years of four digits, and nesting that the reader of JSON follows. -/
def Recoverable : Tagged → Prop
  | .date t => 0 ≤ t.year ∧ t.year ≤ 9999
  | .json d => d.tree.depth ≤ 127
  | _ => True

/-- The doubles in a document are read back from their texts. -/
def DoublesReadBack : Tagged → Prop
  | .json d => d.tree.DoublesReadBack
  | _ => True

/-! ## The tag -/

theorem length_tagBytes (k : ValueKind) : k.tagBytes.length = 4 := by cases k <;> decide +kernel

theorem tagBytes_injective : ∀ {k k' : ValueKind}, k.tagBytes = k'.tagBytes → k = k' := by
  intro k k' h
  cases k <;> cases k' <;> first | rfl | (revert h; decide +kernel)

theorem take_encode (v : Tagged) : v.encode.take 4 = v.kind.tagBytes := by
  rw [encode, ← length_tagBytes v.kind, List.take_left]

theorem decode?_append (k : ValueKind) (s : String) : decode? (k.tagBytes ++ utf8Bytes s) k = ofPayload? k s := by
  rw [decode?, ← length_tagBytes k, List.take_left, if_pos rfl, List.drop_left, ofUtf8?_utf8Bytes, Option.bind_some]

/-- Under its own kind a value is read from its payload. -/
theorem decode?_encode (v : Tagged) : decode? v.encode v.kind = ofPayload? v.kind v.payload :=
  decode?_append v.kind v.payload

/-- No other kind takes the bytes. -/
theorem decode?_encode_of_ne {v : Tagged} {k : ValueKind} (h : k ≠ v.kind) : decode? v.encode k = none := by
  rw [decode?, take_encode, if_neg fun he => h (tagBytes_injective he).symm]

/-! ## The payloads -/

theorem readInt64?_intText (i : Int64) : readInt64? (intText i.toInt) = some i := by
  have hlo := i.le_toInt
  have hhi := i.toInt_lt
  rw [readInt64?, intText, String.toList_ofList, readInt?_intDigits, Option.bind_some, if_pos (by omega),
    Int64.ofInt_toInt]

/-- A value of the two bounded kinds is refused beyond the bounds; its doubles have no part in that. -/
theorem ofPayload?_eq_none {v : Tagged} (h : ¬v.Recoverable) : ofPayload? v.kind v.payload = none := by
  cases v with
  | date t =>
    have hy : ¬t.HasPlainYear := h
    simp [kind, payload, ofPayload?, Timestamp.ofText?_text_eq_none hy]
  | json d =>
    have hd : ¬d.tree.depth ≤ Json.Source.maxDepth := h
    simp [kind, payload, ofPayload?, Base64.ofText?_text, ofUtf8?_utf8Bytes, Json.ofText?_document_eq_none hd]
  | _ => exact absurd trivial h

theorem ofPayload?_payload {v : Tagged} (hx : v.DoublesReadBack) (h : v.Recoverable) :
    ofPayload? v.kind v.payload = some v := by
  cases v with
  | string s => rfl
  | bytes b => simp [kind, payload, ofPayload?, Base64.ofText?_text]
  | int i => simp [kind, payload, ofPayload?, readInt64?_intText]
  | double x => simp [kind, payload, ofPayload?, Double.ofText?_text]
  | bool b => cases b <;> rfl
  | date t =>
    have hy : t.HasPlainYear := h
    simp [kind, payload, ofPayload?, Timestamp.ofText?_text hy]
  | json d =>
    have hd : d.tree.depth ≤ Json.Source.maxDepth := h
    simp [kind, payload, ofPayload?, Base64.ofText?_text, ofUtf8?_utf8Bytes, Json.ofText?_document hx hd]

/-! ## Round trip -/

/--
**What comes back.** A value is read back from its bytes under its own kind exactly when it is recoverable, and
nothing is read from the bytes of any other.
-/
theorem decode?_encode_iff {v : Tagged} (hx : v.DoublesReadBack) :
    (decode? v.encode v.kind = some v ↔ v.Recoverable) ∧ (¬v.Recoverable → decode? v.encode v.kind = none) := by
  rw [decode?_encode]
  refine ⟨⟨fun h => ?_, ofPayload?_payload hx⟩, ofPayload?_eq_none⟩
  by_contra hr
  rw [ofPayload?_eq_none hr] at h
  cases h

/-- One tenth, which no double is, among the items of a member. -/
def tenth : Json.Document where
  tree := .object [("a\n", .array [.number (.double ⟨true, 0x3fb999999999999a, by decide⟩), .null])]
  ordered := by simp [Json.Ordered, Json.OrderedMembers, Json.OrderedItems, SortedKeys]

theorem decode?_encode_tenth : (json tenth).DoublesReadBack ∧
    (decode? (json tenth).encode .json = some (json tenth) ↔ tenth.tree.depth ≤ 127) := by
  have hx : (json tenth).DoublesReadBack := by
    refine ⟨⟨?_, trivial, trivial⟩, trivial⟩
    show Json.DoubleReadsBack _
    decide +kernel
  exact ⟨hx, (decode?_encode_iff hx).1⟩

end TypedStorage.Tagged
