/-
The text of a JSON value is read back (`ofText?_document`). The text is always JSON: reading it as a source gives
the same value, with its members in the same order and each number as the reader of numbers has it
(`read?_text`). What the reader of values adds is the bound on nesting: a value nested more deeply has a
source and no value (`ofText?_text_eq_none`), whatever its numbers are read as.
-/
import TypedStorage.Proofs.KeyMap
import TypedStorage.Proofs.Json.Number
import TypedStorage.Proofs.Json.String

namespace TypedStorage.Json

/-! ## The source of a text -/

mutual

/-- A value as its text is read: each number is what its own text is read as. -/
def readBack : Json → Source
  | .null => .null
  | .bool b => .bool b
  | .number n => .number n.reread
  | .string s => .string (some s)
  | .array items => .array (readBackItems items)
  | .object members => .object (readBackMembers members)

def readBackItems : List Json → List Source
  | [] => []
  | j :: items => readBack j :: readBackItems items

def readBackMembers : List (String × Json) → List (Option String × Source)
  | [] => []
  | (k, j) :: members => (some k, readBack j) :: readBackMembers members

end

theorem skipSpace_cons {c : Char} (hc : Source.isSpace c = false) (cs : List Char) :
    Source.skipSpace (c :: cs) = c :: cs := by
  rw [Source.skipSpace, List.dropWhile_cons_of_neg (by simp [hc])]

/-- No value starts with a blank or a closing bracket. -/
theorem chars_eq_cons (j : Json) : ∃ c cs, j.chars = c :: cs ∧ Source.isSpace c = false ∧ c ≠ ']' := by
  cases j with
  | null => exact ⟨_, _, rfl, by decide, by decide⟩
  | bool b => cases b <;> exact ⟨_, _, rfl, by decide, by decide⟩
  | number n =>
    obtain ⟨c, cs, he, hc⟩ := exists_chars_eq_cons n
    refine ⟨c, cs, he, ?_, ?_⟩
    · rw [Bool.eq_false_iff]
      intro hspace
      simp only [Source.isSpace, Bool.or_eq_true, decide_eq_true_eq] at hspace
      rcases hspace with ((rfl | rfl) | rfl) | rfl <;> simp at hc
    · rintro rfl
      simp at hc
  | string s => exact ⟨_, _, rfl, by decide, by decide⟩
  | array items =>
    cases items with
    | nil => exact ⟨_, _, rfl, by decide, by decide⟩
    | cons j items => exact ⟨'[', _, by rw [chars], by decide, by decide⟩
  | object members =>
    cases members with
    | nil => exact ⟨_, _, rfl, by decide, by decide⟩
    | cons p members =>
      obtain ⟨k, j⟩ := p
      exact ⟨'{', _, by rw [chars], by decide, by decide⟩

theorem stopsNumber_itemChars (items : List Json) (rest : List Char) : StopsNumber (itemChars items ++ rest) := by
  cases items <;> rw [itemChars] <;> exact .cons (by decide)

theorem stopsNumber_memberChars (members : List (String × Json)) (rest : List Char) :
    StopsNumber (memberChars members ++ rest) := by
  cases members with
  | nil => rw [memberChars]; exact .cons (by decide)
  | cons p members =>
    obtain ⟨k, j⟩ := p
    rw [memberChars]
    exact .cons (by decide)

/-- A name and its colon are read to the value. -/
theorem readName?_stringChars (k : String) (cs : List Char) :
    Source.readName? (stringChars k ++ ':' :: cs) = some (some k, cs) := by
  rw [stringChars, List.cons_append, List.append_assoc, List.singleton_append, Source.readName?,
    skipSpace_cons (by decide)]
  simp only [readString?_stringChars, Option.bind_eq_bind, Option.bind_some,
    skipSpace_cons (by decide : Source.isSpace ':' = false)]

mutual

/-- The text of a value is read as one value; its length is fuel enough. -/
theorem value?_chars : ∀ (j : Json) (fuel : Nat) {rest : List Char}, StopsNumber rest → j.chars.length ≤ fuel →
    Source.value? fuel (j.chars ++ rest) = some (readBack j, rest)
  | j, 0, _, _, h => by
    obtain ⟨c, cs, he, -⟩ := chars_eq_cons j
    simp [he] at h
  | .null, fuel + 1, rest, _, _ => by
    simp [chars, Source.value?, skipSpace_cons, Source.isSpace, Source.afterWord?, readBack]
  | .bool true, fuel + 1, rest, _, _ => by
    simp [chars, Source.value?, skipSpace_cons, Source.isSpace, Source.afterWord?, readBack]
  | .bool false, fuel + 1, rest, _, _ => by
    simp [chars, Source.value?, skipSpace_cons, Source.isSpace, Source.afterWord?, readBack]
  | .number n, fuel + 1, rest, hr, _ => by
    rw [chars, readBack]
    exact value?_number fuel n hr
  | .string s, fuel + 1, rest, _, _ => by
    rw [chars, readBack, stringChars, List.cons_append, List.append_assoc, List.singleton_append, Source.value?,
      skipSpace_cons (by decide)]
    simp only [readString?_stringChars, Option.map_some]
  | .array [], fuel + 1, rest, _, _ => by
    simp [chars, Source.value?, skipSpace_cons, Source.isSpace, readBack, readBackItems]
  | .array (j :: items), fuel + 1, rest, _, h => by
    simp only [chars, List.length_cons, List.length_append] at h
    have hx := value?_chars j fuel (stopsNumber_itemChars items rest) (by omega)
    have hxs := items?_itemChars items fuel rest (by omega)
    obtain ⟨c, cs, he, hspace, hclose⟩ := chars_eq_cons j
    rw [chars, List.cons_append, List.append_assoc, Source.value?, skipSpace_cons (by decide)]
    rw [he, List.cons_append] at hx ⊢
    simp only [skipSpace_cons hspace]
    split
    · next hc => exact absurd (List.cons.inj hc).1 hclose
    · rw [hx]
      simp only [Option.bind_eq_bind, Option.bind_some, hxs, Option.pure_def, readBack, readBackItems]
  | .object [], fuel + 1, rest, _, _ => by
    simp [chars, Source.value?, skipSpace_cons, Source.isSpace, readBack, readBackMembers]
  | .object ((k, j) :: members), fuel + 1, rest, _, h => by
    simp only [chars, List.length_cons, List.length_append] at h
    have hn := readName?_stringChars k (j.chars ++ (memberChars members ++ rest))
    have hx := value?_chars j fuel (stopsNumber_memberChars members rest) (by omega)
    have hms := members?_memberChars members fuel rest (by omega)
    rw [chars, List.cons_append, List.append_assoc, List.cons_append, List.append_assoc, Source.value?,
      skipSpace_cons (by decide)]
    rw [stringChars, List.cons_append] at hn ⊢
    simp only [skipSpace_cons (by decide : Source.isSpace '"' = false)]
    split
    · next hc => simp at hc
    · rw [hn]
      simp only [Option.bind_eq_bind, Option.bind_some, hx, hms, Option.pure_def, readBack, readBackMembers]

theorem items?_itemChars : ∀ (items : List Json) (fuel : Nat) (rest : List Char), (itemChars items).length ≤ fuel →
    Source.items? fuel (itemChars items ++ rest) = some (readBackItems items, rest)
  | items, 0, _, h => by cases items <;> simp [itemChars] at h
  | [], fuel + 1, rest, _ => by
    simp [itemChars, Source.items?, skipSpace_cons, Source.isSpace, readBackItems]
  | j :: items, fuel + 1, rest, h => by
    simp only [itemChars, List.length_cons, List.length_append] at h
    have hx := value?_chars j fuel (stopsNumber_itemChars items rest) (by omega)
    have hxs := items?_itemChars items fuel rest (by omega)
    rw [itemChars, List.cons_append, List.append_assoc, Source.items?, skipSpace_cons (by decide)]
    simp only [hx, hxs, Option.bind_eq_bind, Option.bind_some, Option.pure_def, readBackItems]

theorem members?_memberChars : ∀ (members : List (String × Json)) (fuel : Nat) (rest : List Char),
    (memberChars members).length ≤ fuel →
      Source.members? fuel (memberChars members ++ rest) = some (readBackMembers members, rest)
  | [], 0, _, h => by simp [memberChars] at h
  | (k, j) :: members, 0, _, h => by simp [memberChars] at h
  | [], fuel + 1, rest, _ => by
    simp [memberChars, Source.members?, skipSpace_cons, Source.isSpace, readBackMembers]
  | (k, j) :: members, fuel + 1, rest, h => by
    simp only [memberChars, List.length_cons, List.length_append] at h
    have hx := value?_chars j fuel (stopsNumber_memberChars members rest) (by omega)
    have hms := members?_memberChars members fuel rest (by omega)
    rw [memberChars, List.cons_append, List.append_assoc, List.cons_append, List.append_assoc, Source.members?,
      skipSpace_cons (by decide)]
    simp only [readName?_stringChars, hx, hms, Option.bind_eq_bind, Option.bind_some, Option.pure_def, readBackMembers]

end

/-- The text of any value is JSON, and of the same shape. -/
theorem read?_text (j : Json) : Source.read? j.text = some (readBack j) := by
  have h := value?_chars j (j.chars.length + 1) .nil (by omega)
  rw [List.append_nil] at h
  rw [Source.read?, text, String.toList_ofList, readChars?_eq_some h]

/-! ## The value of a source -/

mutual

/-- A value is the value of its source, if the nesting stays within the bound. -/
theorem json?_ofJson : ∀ (j : Json) {budget : Nat}, j.Ordered → j.depth ≤ budget →
    Source.json? budget (Source.ofJson j) = some j
  | .null, _, _, _ => by simp [Source.ofJson, Source.json?]
  | .bool b, _, _, _ => by simp [Source.ofJson, Source.json?]
  | .number n, _, _, _ => by simp [Source.ofJson, Source.json?]
  | .string s, _, _, _ => by simp [Source.ofJson, Source.json?]
  | .array items, 0, _, hd => by simp [depth] at hd
  | .array items, budget + 1, ho, hd => by
    rw [Ordered] at ho
    rw [depth] at hd
    rw [Source.ofJson, Source.json?, jsonItems?_ofItems items ho (by omega)]
    rfl
  | .object members, 0, _, hd => by simp [depth] at hd
  | .object members, budget + 1, ho, hd => by
    rw [Ordered] at ho
    rw [depth] at hd
    rw [Source.ofJson, Source.json?, jsonMembers?_ofMembers members ho.2 (by omega), Option.map_some, Json.ofMembers,
      ho.1.sortEntries_eq]

theorem jsonItems?_ofItems : ∀ (items : List Json) {budget : Nat}, OrderedItems items → itemsDepth items ≤ budget →
    Source.jsonItems? budget (Source.ofItems items) = some items
  | [], _, _, _ => by simp [Source.ofItems, Source.jsonItems?]
  | j :: items, budget, ho, hd => by
    rw [OrderedItems] at ho
    rw [itemsDepth] at hd
    have hj := @json?_ofJson j budget ho.1 (by omega)
    have hjs := @jsonItems?_ofItems items budget ho.2 (by omega)
    simp [Source.ofItems, Source.jsonItems?, hj, hjs]

theorem jsonMembers?_ofMembers : ∀ (members : List (String × Json)) {budget : Nat}, OrderedMembers members →
    membersDepth members ≤ budget → Source.jsonMembers? budget (Source.ofMembers members) = some members
  | [], _, _, _ => by simp [Source.ofMembers, Source.jsonMembers?]
  | (k, j) :: members, budget, ho, hd => by
    rw [OrderedMembers] at ho
    rw [membersDepth] at hd
    have hj := @json?_ofJson j budget ho.1 (by omega)
    have hms := @jsonMembers?_ofMembers members budget ho.2 (by omega)
    simp [Source.ofMembers, Source.jsonMembers?, hj, hms]

end

mutual

/-- What is read back as a value was not nested beyond the bound, whatever its numbers were read as. -/
theorem depth_le_of_json? : ∀ (j : Json) {budget : Nat} {j' : Json},
    Source.json? budget (readBack j) = some j' → j.depth ≤ budget
  | .null, _, _, _ => by simp [depth]
  | .bool b, _, _, _ => by simp [depth]
  | .number n, _, _, _ => by simp [depth]
  | .string s, _, _, _ => by simp [depth]
  | .array items, 0, _, h => by simp [readBack, Source.json?] at h
  | .array items, budget + 1, j', h => by
    simp only [readBack, Source.json?, Option.map_eq_some_iff] at h
    obtain ⟨js, hjs, -⟩ := h
    rw [depth]
    exact Nat.succ_le_succ (itemsDepth_le_of_jsonItems? items hjs)
  | .object members, 0, _, h => by simp [readBack, Source.json?] at h
  | .object members, budget + 1, j', h => by
    simp only [readBack, Source.json?, Option.map_eq_some_iff] at h
    obtain ⟨ms, hms, -⟩ := h
    rw [depth]
    exact Nat.succ_le_succ (membersDepth_le_of_jsonMembers? members hms)

theorem itemsDepth_le_of_jsonItems? : ∀ (items : List Json) {budget : Nat} {js : List Json},
    Source.jsonItems? budget (readBackItems items) = some js → itemsDepth items ≤ budget
  | [], _, _, _ => by simp [itemsDepth]
  | j :: items, budget, js, h => by
    simp only [readBackItems, Source.jsonItems?, Option.bind_eq_bind, Option.bind_eq_some_iff] at h
    obtain ⟨j', hj, js', hjs, -⟩ := h
    have := depth_le_of_json? j hj
    have := itemsDepth_le_of_jsonItems? items hjs
    rw [itemsDepth]
    omega

theorem membersDepth_le_of_jsonMembers? : ∀ (members : List (String × Json)) {budget : Nat} {ms : List (String × Json)},
    Source.jsonMembers? budget (readBackMembers members) = some ms → membersDepth members ≤ budget
  | [], _, _, _ => by simp [membersDepth]
  | (k, j) :: members, budget, ms, h => by
    simp only [readBackMembers, Source.jsonMembers?, Option.bind_eq_bind, Option.bind_eq_some_iff] at h
    obtain ⟨k', -, j', hj, ms', hms, -⟩ := h
    have := depth_le_of_json? j hj
    have := membersDepth_le_of_jsonMembers? members hms
    rw [membersDepth]
    omega

end

/-! ## Doubles that are read back -/

/-- The reader of numbers finds the double again in the text of it. It does for most doubles, not for all. -/
def DoubleReadsBack (x : Double.Finite) : Prop := Number.reread (.double x) = some (.double x)

instance (x : Double.Finite) : Decidable (DoubleReadsBack x) := inferInstanceAs (Decidable (_ = _))

mutual

/-- Every double in the value is read back from its text. -/
def DoublesReadBack : Json → Prop
  | .number (.double x) => DoubleReadsBack x
  | .array items => ItemDoublesReadBack items
  | .object members => MemberDoublesReadBack members
  | _ => True

def ItemDoublesReadBack : List Json → Prop
  | [] => True
  | j :: items => DoublesReadBack j ∧ ItemDoublesReadBack items

def MemberDoublesReadBack : List (String × Json) → Prop
  | [] => True
  | (_, j) :: members => DoublesReadBack j ∧ MemberDoublesReadBack members

end

mutual

/-- Only doubles can be read as something else. -/
theorem readBack_eq_ofJson : ∀ (j : Json), j.DoublesReadBack → readBack j = Source.ofJson j
  | .null, _ => rfl
  | .bool b, _ => rfl
  | .number (.int i hi), _ => by rw [readBack, reread_int, Source.ofJson]
  | .number (.double x), h => by
    rw [DoublesReadBack, DoubleReadsBack] at h
    rw [readBack, h, Source.ofJson]
  | .string s, _ => rfl
  | .array items, h => by
    rw [DoublesReadBack] at h
    rw [readBack, Source.ofJson, readBackItems_eq_ofItems items h]
  | .object members, h => by
    rw [DoublesReadBack] at h
    rw [readBack, Source.ofJson, readBackMembers_eq_ofMembers members h]

theorem readBackItems_eq_ofItems : ∀ (items : List Json), ItemDoublesReadBack items →
    readBackItems items = Source.ofItems items
  | [], _ => rfl
  | j :: items, h => by
    rw [ItemDoublesReadBack] at h
    rw [readBackItems, Source.ofItems, readBack_eq_ofJson j h.1, readBackItems_eq_ofItems items h.2]

theorem readBackMembers_eq_ofMembers : ∀ (members : List (String × Json)), MemberDoublesReadBack members →
    readBackMembers members = Source.ofMembers members
  | [], _ => rfl
  | (k, j) :: members, h => by
    rw [MemberDoublesReadBack] at h
    rw [readBackMembers, Source.ofMembers, readBack_eq_ofJson j h.1, readBackMembers_eq_ofMembers members h.2]

end

/-! ## Documents -/

theorem document?_eq_some {budget : Nat} {x : Source} {d : Document} (h : Source.json? budget x = some d.tree) :
    Source.document? budget x = some d := by
  unfold Source.document?
  split
  · next h' =>
    rw [h] at h'
    exact congrArg some (Document.ext (Option.some.inj h').symm)
  · next h' => simp [h] at h'

theorem document?_eq_none {budget : Nat} {x : Source} (h : Source.json? budget x = none) :
    Source.document? budget x = none := by
  unfold Source.document?
  split
  · next h' => simp [h] at h'
  · rfl

/-- **A document that is not nested too deeply is read back from its text.** -/
theorem ofText?_document {d : Document} (hx : d.tree.DoublesReadBack) (hd : d.tree.depth ≤ Source.maxDepth) :
    Document.ofText? d.text = some d := by
  rw [Document.ofText?, Document.text, read?_text, Option.bind_some, readBack_eq_ofJson _ hx]
  exact document?_eq_some (json?_ofJson _ d.ordered hd)

/-- **The text of a document that is nested too deeply is refused.** -/
theorem ofText?_document_eq_none {d : Document} (hd : ¬d.tree.depth ≤ Source.maxDepth) :
    Document.ofText? d.text = none := by
  rw [Document.ofText?, Document.text, read?_text, Option.bind_some]
  apply document?_eq_none
  rw [Option.eq_none_iff_forall_ne_some]
  exact fun j h => hd (depth_le_of_json? _ h)

end TypedStorage.Json
