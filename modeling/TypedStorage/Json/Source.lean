/-
JSON text as it is written: members in their order, repeated names kept, and nothing refused that only a
reader of the value would notice. `Source.read?` takes strict JSON and no more. What is left to whoever
wants the value: a number out of range and a string with half of a surrogate pair have none, and values
nested too deeply are not read. A value is a source too.
-/
import TypedStorage.Json.Number

namespace TypedStorage.Json

open Text

inductive Source where
  | null
  | bool (b : Bool)
  | number (n : Option Number)
  | string (s : Option String)
  | array (items : List Source)
  | object (members : List (Option String × Source))

namespace Source

/-! ## Strings -/

/-- A piece of a string: a character that stands for itself, or a 16-bit unit given by its number. -/
inductive Piece where
  | char (c : Char)
  | unit (n : Nat)

/-- The character of a one-letter escape. -/
def simpleEscape? : Char → Option Char
  | '"' => some '"'
  | '\\' => some '\\'
  | '/' => some '/'
  | 'b' => some '\x08'
  | 'f' => some '\x0c'
  | 'n' => some '\n'
  | 'r' => some '\r'
  | 't' => some '\t'
  | _ => none

def hexUnit? (a b c d : Char) : Option Nat := do
  let a ← hexValue? a
  let b ← hexValue? b
  let c ← hexValue? c
  let d ← hexValue? d
  return ((a * 16 + b) * 16 + c) * 16 + d

/-- The pieces up to the closing quote, and what follows it. -/
def pieces? : List Char → Option (List Piece × List Char)
  | [] => none
  | '"' :: rest => some ([], rest)
  | '\\' :: 'u' :: a :: b :: c :: d :: cs => do
    let n ← hexUnit? a b c d
    let (ps, rest) ← pieces? cs
    return (.unit n :: ps, rest)
  | '\\' :: e :: cs => do
    let c ← simpleEscape? e
    let (ps, rest) ← pieces? cs
    return (.char c :: ps, rest)
  | c :: cs =>
    if c.toNat < 0x20 then none
    else do
      let (ps, rest) ← pieces? cs
      return (.char c :: ps, rest)

def isHigh (n : Nat) : Bool := 0xd800 ≤ n && n < 0xdc00

def isLow (n : Nat) : Bool := 0xdc00 ≤ n && n < 0xe000

/-- The characters of the pieces; a high unit must have a low one after it, and no low one stands alone. -/
def joinPieces? : List Piece → Option (List Char)
  | [] => some []
  | .char c :: ps => (joinPieces? ps).map (c :: ·)
  | .unit n :: .unit m :: ps =>
    if isHigh n then
      if isLow m then
        (joinPieces? ps).map (Char.ofNat (0x10000 + (n - 0xd800) * 0x400 + (m - 0xdc00)) :: ·)
      else none
    else if isLow n then none
    else (joinPieces? (.unit m :: ps)).map (Char.ofNat n :: ·)
  | .unit n :: ps =>
    if isHigh n || isLow n then none else (joinPieces? ps).map (Char.ofNat n :: ·)

/-- The rest of a string after its opening quote. -/
def readString? (cs : List Char) : Option (Option String × List Char) :=
  (pieces? cs).map fun (ps, rest) => ((joinPieces? ps).map String.ofList, rest)

/-! ## Numbers -/

/-- A point and at least one digit, or nothing. -/
def readFraction? : List Char → Option (Option (List Char) × List Char)
  | '.' :: cs =>
    let (word, rest) := spanDigits cs
    if word = [] then none else some (some word, rest)
  | cs => some (none, cs)

/-- The digits of an exponent, at least one. -/
def readPower? (negative : Bool) (cs : List Char) : Option (Option Int × List Char) :=
  let (word, rest) := spanDigits cs
  if word = [] then none
  else some (some (if negative then -(digitsValue word : Int) else digitsValue word), rest)

def readExponent? : List Char → Option (Option Int × List Char)
  | [] => some (none, [])
  | e :: cs =>
    if e = 'e' ∨ e = 'E' then
      match cs with
      | '-' :: cs => readPower? true cs
      | '+' :: cs => readPower? false cs
      | cs => readPower? false cs
    else some (none, e :: cs)

/-- Digits without a needless leading zero, then fraction and exponent. -/
def readUnsigned? (negative : Bool) (cs : List Char) : Option (Source × List Char) := do
  let (whole, rest) := spanDigits cs
  guard (whole ≠ [] ∧ (whole.head? ≠ some '0' ∨ whole.length = 1))
  let (fraction, rest) ← readFraction? rest
  let (exponent, rest) ← readExponent? rest
  return (.number (NumberToken.number? ⟨negative, whole, fraction, exponent⟩), rest)

/-! ## Values -/

def isSpace (c : Char) : Bool := c = ' ' || c = '\t' || c = '\n' || c = '\r'

def skipSpace (cs : List Char) : List Char := cs.dropWhile isSpace

/-- The text after a fixed word. -/
def afterWord? (word cs : List Char) : Option (List Char) :=
  if cs.take word.length = word then some (cs.drop word.length) else none

/-- A name, a colon, and what follows; blanks may stand before each. -/
def readName? (cs : List Char) : Option (Option String × List Char) :=
  match skipSpace cs with
  | '"' :: cs => do
    let (name, rest) ← readString? cs
    match skipSpace rest with
    | ':' :: rest => some (name, rest)
    | _ => none
  | _ => none

mutual

/-- One value off the front; every call takes at least one character, which `fuel` counts. -/
def value? : Nat → List Char → Option (Source × List Char)
  | 0, _ => none
  | fuel + 1, cs =>
    match skipSpace cs with
    | '"' :: cs => (readString? cs).map fun (s, rest) => (.string s, rest)
    | 'n' :: cs => (afterWord? ['u', 'l', 'l'] cs).map fun rest => (.null, rest)
    | 't' :: cs => (afterWord? ['r', 'u', 'e'] cs).map fun rest => (.bool true, rest)
    | 'f' :: cs => (afterWord? ['a', 'l', 's', 'e'] cs).map fun rest => (.bool false, rest)
    | '-' :: cs => readUnsigned? true cs
    | '[' :: cs =>
      match skipSpace cs with
      | ']' :: rest => some (.array [], rest)
      | cs => do
        let (x, rest) ← value? fuel cs
        let (xs, rest) ← items? fuel rest
        return (.array (x :: xs), rest)
    | '{' :: cs =>
      match skipSpace cs with
      | '}' :: rest => some (.object [], rest)
      | cs => do
        let (name, rest) ← readName? cs
        let (x, rest) ← value? fuel rest
        let (ms, rest) ← members? fuel rest
        return (.object ((name, x) :: ms), rest)
    | cs => readUnsigned? false cs

/-- The items after one, up to the closing bracket. -/
def items? : Nat → List Char → Option (List Source × List Char)
  | 0, _ => none
  | fuel + 1, cs =>
    match skipSpace cs with
    | ']' :: rest => some ([], rest)
    | ',' :: cs => do
      let (x, rest) ← value? fuel cs
      let (xs, rest) ← items? fuel rest
      return (x :: xs, rest)
    | _ => none

/-- The members after one, up to the closing brace. -/
def members? : Nat → List Char → Option (List (Option String × Source) × List Char)
  | 0, _ => none
  | fuel + 1, cs =>
    match skipSpace cs with
    | '}' :: rest => some ([], rest)
    | ',' :: cs => do
      let (name, rest) ← readName? cs
      let (x, rest) ← value? fuel rest
      let (ms, rest) ← members? fuel rest
      return ((name, x) :: ms, rest)
    | _ => none

end

/-- A text that is one value with blanks around it. -/
def readChars? (cs : List Char) : Option Source := do
  let (x, rest) ← value? (cs.length + 1) cs
  guard (skipSpace rest = [])
  return x

def read? (s : String) : Option Source := readChars? s.toList

/-! ## The value of a source -/

/-- Arrays and objects may stand in one another this deep. -/
def maxDepth : Nat := 127

mutual

/-- The value, if every part has one and at most `budget` arrays and objects stand in one another. -/
def json? : Nat → Source → Option Json
  | _, .null => some .null
  | _, .bool b => some (.bool b)
  | _, .number n => n.map .number
  | _, .string s => s.map .string
  | 0, .array _ => none
  | budget + 1, .array items => (jsonItems? budget items).map .array
  | 0, .object _ => none
  | budget + 1, .object members => (jsonMembers? budget members).map Json.ofMembers

def jsonItems? : Nat → List Source → Option (List Json)
  | _, [] => some []
  | budget, x :: items => do
    let j ← json? budget x
    let js ← jsonItems? budget items
    return j :: js

def jsonMembers? : Nat → List (Option String × Source) → Option (List (String × Json))
  | _, [] => some []
  | budget, (name, x) :: members => do
    let k ← name
    let j ← json? budget x
    let ms ← jsonMembers? budget members
    return (k, j) :: ms

end

mutual

theorem ordered_of_json? : ∀ {budget : Nat} {x : Source} {j : Json}, json? budget x = some j → j.Ordered
  | _, .null, j, h => by simp [json?] at h; subst h; trivial
  | _, .bool b, j, h => by simp [json?] at h; subst h; trivial
  | _, .number _, j, h => by
    simp only [json?, Option.map_eq_some_iff] at h
    obtain ⟨n, _, rfl⟩ := h; trivial
  | _, .string s, j, h => by
    simp only [json?, Option.map_eq_some_iff] at h
    obtain ⟨n, _, rfl⟩ := h; trivial
  | 0, .array _, j, h => by simp [json?] at h
  | budget + 1, .array items, j, h => by
    simp only [json?, Option.map_eq_some_iff] at h
    obtain ⟨js, h, rfl⟩ := h
    exact orderedItems_of_jsonItems? h
  | 0, .object _, j, h => by simp [json?] at h
  | budget + 1, .object members, j, h => by
    simp only [json?, Option.map_eq_some_iff] at h
    obtain ⟨ms, h, rfl⟩ := h
    exact ordered_ofMembers (orderedMembers_of_jsonMembers? h)

theorem orderedItems_of_jsonItems? :
    ∀ {budget : Nat} {items : List Source} {js : List Json}, jsonItems? budget items = some js → OrderedItems js
  | _, [], js, h => by simp [jsonItems?] at h; subst h; trivial
  | budget, x :: items, js, h => by
    simp only [jsonItems?, Option.bind_eq_bind, Option.bind_eq_some_iff, Option.pure_def, Option.some.injEq] at h
    obtain ⟨j, hj, js', hjs, rfl⟩ := h
    exact ⟨ordered_of_json? hj, orderedItems_of_jsonItems? hjs⟩

theorem orderedMembers_of_jsonMembers? :
    ∀ {budget : Nat} {members : List (Option String × Source)} {ms : List (String × Json)},
      jsonMembers? budget members = some ms → OrderedMembers ms
  | _, [], ms, h => by simp [jsonMembers?] at h; subst h; trivial
  | budget, (name, x) :: members, ms, h => by
    simp only [jsonMembers?, Option.bind_eq_bind, Option.bind_eq_some_iff, Option.pure_def,
      Option.some.injEq] at h
    obtain ⟨k, _, j, hj, ms', hms, rfl⟩ := h
    exact ⟨ordered_of_json? hj, orderedMembers_of_jsonMembers? hms⟩

end

mutual

/-- A value as the source that lists its parts in the same order. -/
def ofJson : Json → Source
  | .null => .null
  | .bool b => .bool b
  | .number n => .number (some n)
  | .string s => .string (some s)
  | .array items => .array (ofItems items)
  | .object members => .object (ofMembers members)

def ofItems : List Json → List Source
  | [] => []
  | j :: items => ofJson j :: ofItems items

def ofMembers : List (String × Json) → List (Option String × Source)
  | [] => []
  | (k, j) :: members => (some k, ofJson j) :: ofMembers members

end

/-- The value in its ordered form. -/
def document? (budget : Nat) (x : Source) : Option Document :=
  match h : json? budget x with
  | some j => some ⟨j, ordered_of_json? h⟩
  | none => none

end Source

/-- The value of a text. -/
def Document.ofText? (s : String) : Option Document := (Source.read? s).bind (Source.document? Source.maxDepth)

end TypedStorage.Json
