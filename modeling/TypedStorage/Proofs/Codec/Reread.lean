/-
Bytes that are read and written again. The reader takes many texts for one value: signs and leading zeros, exponents,
instants with any distance from UTC, documents with spaces and repeated names. What it reads of them is not always a
value that comes back (`decode?_encode_of_decode?`). An instant of the last hours of year 9999 can lie in year 10000 at
UTC, which is written with a sign and then not read, and a document can hold a double whose text is read as its
neighbour. Nothing else is lost; a document, for one, is never nested too deeply once it has been read.
-/
import TypedStorage.Proofs.Codec.Tagged
import TypedStorage.Proofs.Json.Reread
import TypedStorage.Proofs.Time.Edges

namespace TypedStorage.Tagged

open Text

/-! ## What is read -/

/-- The value has the kind that its bytes were read for. -/
theorem kind_of_ofPayload? {k : ValueKind} {s : String} {v : Tagged} (h : ofPayload? k s = some v) : v.kind = k := by
  cases k with
  | string =>
    cases h
    rfl
  | bytes | int | double | date =>
    obtain ⟨x, -, rfl⟩ := Option.map_eq_some_iff.1 h
    rfl
  | bool =>
    dsimp only [ofPayload?] at h
    split_ifs at h <;> cases h <;> rfl
  | json =>
    simp only [ofPayload?, Option.bind_eq_bind, Option.bind_eq_some_iff, Option.pure_def, Option.some.injEq] at h
    obtain ⟨-, -, -, -, d, -, rfl⟩ := h
    rfl

/-- What is read is a tag with a payload after it. -/
theorem eq_append_of_decode? {b : List UInt8} {k : ValueKind} {v : Tagged} (h : decode? b k = some v) :
    ∃ s, b = k.tagBytes ++ utf8Bytes s ∧ ofPayload? k s = some v := by
  rw [decode?, Option.ite_none_right_eq_some] at h
  obtain ⟨htag, h⟩ := h
  obtain ⟨s, hs, hv⟩ := Option.bind_eq_some_iff.1 h
  refine ⟨s, ?_, hv⟩
  rw [← htag, utf8Bytes_of_ofUtf8? hs, List.take_append_drop]

theorem exists_payload_of_decode? {b : List UInt8} {k : ValueKind} {v : Tagged} (h : decode? b k = some v) :
    ∃ s, ofPayload? k s = some v := by
  obtain ⟨s, -, hs⟩ := eq_append_of_decode? h
  exact ⟨s, hs⟩

theorem year_of_ofPayload? {s : String} {k : ValueKind} {t : Timestamp} (h : ofPayload? k s = some (date t)) :
    -1 ≤ t.year ∧ t.year ≤ 10000 := by
  obtain rfl : ValueKind.date = k := kind_of_ofPayload? h
  obtain ⟨t', ht, he⟩ := Option.map_eq_some_iff.1 h
  cases he
  exact Timestamp.year_of_ofText? ht

theorem depth_le_of_ofPayload? {s : String} {k : ValueKind} {d : Json.Document} (h : ofPayload? k s = some (json d)) :
    d.tree.depth ≤ 127 := by
  obtain rfl : ValueKind.json = k := kind_of_ofPayload? h
  simp only [ofPayload?, Option.bind_eq_bind, Option.bind_eq_some_iff, Option.pure_def, Option.some.injEq] at h
  obtain ⟨-, -, t, -, d', hd, he⟩ := h
  cases he
  exact Json.depth_le_of_ofText? hd

/-! ## Reading again -/

/-- An instant is written with a year of four digits and no sign. -/
def HasPlainYear : Tagged → Prop
  | .date t => t.HasPlainYear
  | _ => True

/-- Of what has been read only the instants need a bound. -/
theorem recoverable_iff_of_ofPayload? {s : String} {k : ValueKind} {v : Tagged} (h : ofPayload? k s = some v) :
    v.Recoverable ↔ v.HasPlainYear := by
  cases v with
  | json d => exact iff_of_true (depth_le_of_ofPayload? h) trivial
  | _ => exact Iff.rfl

/-- A value is read back only if the doubles in it are. -/
theorem doublesReadBack_of_ofPayload? {s : String} {k : ValueKind} {v : Tagged} (h : ofPayload? k s = some v)
    (hback : ofPayload? v.kind v.payload = some v) : v.DoublesReadBack := by
  cases v with
  | json d =>
    have hd : d.tree.depth ≤ Json.Source.maxDepth := depth_le_of_ofPayload? h
    simp only [kind, payload, ofPayload?, Base64.ofText?_text, ofUtf8?_utf8Bytes, Option.bind_eq_bind,
      Option.bind_some, Option.bind_eq_some_iff, Option.pure_def, Option.some.injEq] at hback
    obtain ⟨d', hd', he⟩ := hback
    cases he
    exact (Json.ofText?_text_eq_some_iff hd).1 hd'
  | _ => trivial

/--
**What survives being read and written again.** A value that was read from any bytes is found again in the bytes it is
written as exactly when it is no instant outside the years of four digits and no document with a double that is read as
another. Such an instant lies in one of the two years next to those, and nothing is read from what it is written as.
-/
theorem decode?_encode_of_decode? {b : List UInt8} {k : ValueKind} {v : Tagged} (h : decode? b k = some v) :
    (decode? v.encode k = some v ↔ v.HasPlainYear ∧ v.DoublesReadBack) ∧
      (¬v.HasPlainYear → decode? v.encode k = none ∧ ∃ t, v = date t ∧ (t.year = -1 ∨ t.year = 10000)) := by
  obtain ⟨s, hs⟩ := exists_payload_of_decode? h
  obtain rfl := kind_of_ofPayload? hs
  have hrec := recoverable_iff_of_ofPayload? hs
  rw [decode?_encode]
  refine ⟨⟨fun hback => ⟨?_, doublesReadBack_of_ofPayload? hs hback⟩,
    fun ⟨hy, hx⟩ => ofPayload?_payload hx (hrec.2 hy)⟩, fun hy => ⟨ofPayload?_eq_none (hrec.not.2 hy), ?_⟩⟩
  · by_contra hy
    rw [ofPayload?_eq_none (hrec.not.2 hy)] at hback
    cases hback
  · cases v with
    | date t =>
      have hyear := year_of_ofPayload? hs
      have hplain : ¬(0 ≤ t.year ∧ t.year ≤ 9999) := hy
      exact ⟨t, rfl, by omega⟩
    | _ => exact absurd trivial hy

/-- Half past midnight at UTC, when a year has begun that has not begun further west. -/
theorem decode?_encode_earlyHour :
    let b := ValueKind.date.tagBytes ++ utf8Bytes "1999-12-31T23:30:00.5-01:00"
    let v := date ⟨946686600, 500000000, by decide, by decide, by decide⟩
    decode? b .date = some v ∧ decode? v.encode .date = some v := by
  intro b v
  have h : decode? b .date = some v := by
    rw [decode?_append, ofPayload?, Option.map_eq_some_iff]
    exact ⟨_, by decide +kernel, rfl⟩
  have hy : v.HasPlainYear := by
    show Timestamp.HasPlainYear _
    decide +kernel
  exact ⟨h, (decode?_encode_of_decode? h).1.2 ⟨hy, trivial⟩⟩

/-! ## What does not survive -/

/-- The first half hour of year 10000. -/
def newMillennium : Timestamp := ⟨253402302600, 0, by decide, by decide, by decide⟩

theorem decode?_newMillennium :
    decode? (ValueKind.date.tagBytes ++ utf8Bytes "9999-12-31T23:30:00-01:00") .date = some (date newMillennium) := by
  rw [decode?_append, ofPayload?, Option.map_eq_some_iff]
  exact ⟨_, by decide +kernel, rfl⟩

theorem uneven_lt : 0x3fecf05b72cb45dd < Double.rankCount := by decide

/-- A double that the reader finds in a text of more digits, and not in its own. -/
def uneven : Double.Finite := ⟨false, 0x3fecf05b72cb45dd, uneven_lt⟩

theorem ofText?_uneven : Json.Document.ofText? "0.90434048100194845" = some ⟨.number (.double uneven), trivial⟩ := by
  have hread : Json.Source.read? "0.90434048100194845" = some (.number (Json.NumberToken.number?
      ⟨false, ['0'], some "90434048100194845".toList, none⟩)) := by rfl
  have hnumber : Json.NumberToken.number? ⟨false, ['0'], some "90434048100194845".toList, none⟩
      = some (.double uneven) := by decide +kernel
  rw [Json.Document.ofText?, hread, hnumber]
  rfl

theorem decode?_uneven : decode? (ValueKind.json.tagBytes ++ utf8Bytes "MC45MDQzNDA0ODEwMDE5NDg0NQ==") .json
    = some (json ⟨.number (.double uneven), trivial⟩) := by
  have hraw : Base64.ofText? "MC45MDQzNDA0ODEwMDE5NDg0NQ==" = some (utf8Bytes "0.90434048100194845") := by
    decide +kernel
  simp [decode?_append, ofPayload?, hraw, ofUtf8?_utf8Bytes, ofText?_uneven]

/-- Two kinds have bytes whose value is lost by writing it: an instant is not read again, a double becomes another. -/
theorem not_decode?_encode_of_decode? :
    (¬∀ b v, decode? b .date = some v → decode? v.encode .date = some v) ∧
      ¬∀ b v, decode? b .json = some v → decode? v.encode .json = some v := by
  refine ⟨fun h => ?_, fun h => ?_⟩
  · have hback := h _ _ decode?_newMillennium
    have hlost : ¬(date newMillennium).Recoverable := by
      show ¬newMillennium.HasPlainYear
      decide +kernel
    rw [show ValueKind.date = (date newMillennium).kind from rfl, decode?_encode, ofPayload?_eq_none hlost] at hback
    cases hback
  · obtain ⟨s, hs⟩ := exists_payload_of_decode? decode?_uneven
    have hback := h _ _ decode?_uneven
    rw [show ValueKind.json = kind (json ⟨.number (.double uneven), trivial⟩) from rfl, decode?_encode] at hback
    have hlost : ¬Json.DoubleReadsBack uneven := by decide +kernel
    exact hlost (doublesReadBack_of_ofPayload? hs hback)

end TypedStorage.Tagged
