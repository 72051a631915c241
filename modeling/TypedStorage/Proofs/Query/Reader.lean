/-
A reader for compiled queries, which takes a text and its arguments back to what they say. It is no part of the
compiler and knows nothing of it: a text is cut into words and marks, each question mark takes the next
argument, and the rest is a grammar that never has to look back. What it says of the compiler is in
`TypedStorage.Proofs.Query.Unambiguous`.
-/
import TypedStorage.Proofs.Query.Statement
import TypedStorage.Schema.Identifier
import TypedStorage.Text.Digits

namespace TypedStorage

open Text

/-! ## Words and marks -/

/-- A run of letters, digits and underscores, or any other character but a blank. -/
inductive Token where
  | word (w : String)
  | mark (c : Char)
  deriving DecidableEq

namespace Token

/-- The word that has been collected, if there is one. -/
def ofChars (w : List Char) : List Token := if w = [] then [] else [.word (String.ofList w)]

/-- A blank says nothing. -/
def ofMark (c : Char) : List Token := if c = ' ' then [] else [.mark c]

/-- The tokens of a text that a word goes on in front of. -/
def lexFrom : List Char → List Char → List Token
  | w, [] => ofChars w
  | w, c :: cs => if Identifier.isPart c then lexFrom (w ++ [c]) cs else ofChars w ++ (ofMark c ++ lexFrom [] cs)

def lex (s : String) : List Token := lexFrom [] s.toList

end Token

/-- A token, or an argument in the place of its mark. -/
inductive Item where
  | token (t : Token)
  | value (v : Scalar)

namespace Item

open Token

/-- Each question mark takes the next argument, and none is left over. -/
def bind? : List Token → List Scalar → Option (List Item)
  | [], [] => some []
  | [], _ :: _ => none
  | t :: ts, vs =>
    if t = .mark '?' then
      match vs with
      | v :: vs => (bind? ts vs).map (.value v :: ·)
      | [] => none
    else (bind? ts vs).map (.token t :: ·)

/-- The tokens of a text that binds nothing. -/
def fixed (s : String) : List Item := (lex s).map .token

end Item

/-! ## Readers -/

/-- What a reader takes off the front, and what it leaves. -/
abbrev ItemReader (α : Type) := List Item → Option (α × List Item)

namespace ItemReader

open Token

/-- The items after these tokens. -/
def afterTokens? : List Token → List Item → Option (List Item)
  | [], is => some is
  | t :: ts, .token u :: is => if t = u then afterTokens? ts is else none
  | _ :: _, _ => none

/-- The items after the tokens of a text. -/
def after? (s : String) (is : List Item) : Option (List Item) := afterTokens? (lex s) is

def name? : ItemReader String
  | .token (.word w) :: is => some (w, is)
  | _ => none

/-- A name, or the mark that stands for all fields. -/
def field? : ItemReader String
  | .token (.word w) :: is => some (w, is)
  | .token (.mark '*') :: is => some ("*", is)
  | _ => none

def value? : ItemReader Scalar
  | .value v :: is => some (v, is)
  | _ => none

/-- A natural number of 64 bits. -/
def number? : ItemReader UInt64
  | .token (.word w) :: is =>
    (readNat? w.toList).bind fun n => if n < 0x10000000000000000 then some (UInt64.ofNat n, is) else none
  | _ => none

/-- At least one, with this text between each and the next; `fuel` counts them. -/
def listFrom? {α : Type} (sep : String) (read? : ItemReader α) : Nat → ItemReader (List α)
  | 0, _ => none
  | fuel + 1, is => do
    let (x, rest) ← read? is
    match after? sep rest with
    | some rest => do
      let (xs, rest) ← listFrom? sep read? fuel rest
      return (x :: xs, rest)
    | none => return ([x], rest)

def list? {α : Type} (sep : String) (read? : ItemReader α) : ItemReader (List α) :=
  fun is => listFrom? sep read? (is.length + 1) is

/-- What stands after this text, if the text is there; nothing otherwise. -/
def optional? {α : Type} (s : String) (read? : ItemReader (List α)) : ItemReader (List α) := fun is =>
  match after? s is with
  | some rest => read? rest
  | none => some ([], is)

/-- What stands between round brackets, with commas. -/
def bracketed? {α : Type} (read? : ItemReader α) : ItemReader (List α) := fun is => do
  let rest ← after? "(" is
  let (xs, rest) ← list? "," read? rest
  let rest ← after? ")" rest
  return (xs, rest)

/-! ## Clauses -/

def comparison? : ItemReader Comparison := fun is =>
  Comparison.all.findSome? fun op => (after? op.sql is).map fun rest => (op, rest)

def condition? : ItemReader Condition := fun is =>
  match after? "1=0" is with
  | some rest => some (.never, rest)
  | none => do
    let (field, rest) ← name? is
    match after? "IN" rest with
    | some rest => do
      let (vs, rest) ← bracketed? value? rest
      return (.among field vs, rest)
    | none => do
      let (op, rest) ← comparison? rest
      let (v, rest) ← value? rest
      return (.compare field op v, rest)

def conditions? : ItemReader (List Condition) := optional? "WHERE" (list? "AND" condition?)

def sortKey? : ItemReader SortKey := fun is => do
  let (field, rest) ← name? is
  match after? "ASC" rest with
  | some rest => return (⟨field, .ascending⟩, rest)
  | none => do
    let rest ← after? "DESC" rest
    return (⟨field, .descending⟩, rest)

def sort? : ItemReader (List SortKey) := optional? "ORDER BY" (list? "," sortKey?)

def limits? : ItemReader (Option UInt64 × Option UInt64) := fun is =>
  match after? "LIMIT -1 OFFSET" is with
  | some rest => do
    let (o, rest) ← number? rest
    return ((none, some o), rest)
  | none =>
    match after? "LIMIT" is with
    | none => some ((none, none), is)
    | some rest => do
      let (l, rest) ← number? rest
      match after? "OFFSET" rest with
      | none => return ((some l, none), rest)
      | some rest => do
        let (o, rest) ← number? rest
        return ((some l, some o), rest)

def assignment? : ItemReader (String × Scalar) := fun is => do
  let (column, rest) ← name? is
  let rest ← after? "=" rest
  let (v, rest) ← value? rest
  return ((column, v), rest)

/-- A column that takes the value of the row that was not inserted. -/
def refresh? : ItemReader String := fun is => do
  let (column, rest) ← name? is
  let rest ← after? "= excluded." rest
  let (source, rest) ← name? rest
  if source = column then return (column, rest) else none

/-- What is refreshed on a conflict. -/
def resolution? : ItemReader (List String) := fun is =>
  match after? "DO NOTHING" is with
  | some rest => some ([], rest)
  | none => do
    let rest ← after? "DO UPDATE SET" is
    list? "," refresh? rest

end ItemReader

/-! ## Statements -/

namespace Statement

open ItemReader

/-- The statement, if nothing stands after it. -/
def atEnd? (s : Statement) (rest : List Item) : Option Statement := if rest.isEmpty then some s else none

def select? (is : List Item) : Option Statement := do
  let (fields, rest) ← list? "," field? is
  let rest ← after? "FROM" rest
  let (table, rest) ← name? rest
  let (conditions, rest) ← conditions? rest
  let (sort, rest) ← sort? rest
  let (limits, rest) ← limits? rest
  atEnd? (.select table fields conditions sort limits.1 limits.2) rest

/-- What stands after the rows of an insertion: nothing, or one row's resolution of conflicts. -/
def afterRows? (table : String) (columns : List String) (rows : List (List Scalar)) (is : List Item) : Option Statement :=
  match after? "ON CONFLICT" is with
  | none => atEnd? (.insert table columns rows) is
  | some rest =>
    match rows with
    | [values] => do
      let (conflict, rest) ← if (after? "(" rest).isSome then bracketed? name? rest else some ([], rest)
      let (refresh, rest) ← resolution? rest
      atEnd? (.upsert table columns values conflict refresh) rest
    | _ => none

def insert? (is : List Item) : Option Statement := do
  let (table, rest) ← name? is
  match after? "DEFAULT VALUES" rest with
  | some rest => atEnd? (.insertDefaults table) rest
  | none => do
    let (columns, rest) ← bracketed? name? rest
    let rest ← after? "VALUES" rest
    let (rows, rest) ← list? "," (bracketed? value?) rest
    afterRows? table columns rows rest

def update? (is : List Item) : Option Statement := do
  let (table, rest) ← name? is
  let rest ← after? "SET" rest
  let (assignments, rest) ← list? "," assignment? rest
  let (conditions, rest) ← conditions? rest
  atEnd? (.update table assignments conditions) rest

def delete? (is : List Item) : Option Statement := do
  let (table, rest) ← name? is
  let (conditions, rest) ← conditions? rest
  atEnd? (.delete table conditions) rest

/-- The words a statement starts with, and how it goes on. -/
def forms : List (String × (List Item → Option Statement)) :=
  [("SELECT", select?), ("INSERT INTO", insert?), ("UPDATE", update?), ("DELETE FROM", delete?)]

def ofItems? (is : List Item) : Option Statement :=
  if is.isEmpty then some .noop else forms.findSome? fun (s, read?) => (after? s is).bind read?

end Statement

/-- What a text and its arguments say. -/
def Compiled.statement? (c : Compiled) : Option Statement := (Item.bind? (Token.lex c.sql) c.args).bind Statement.ofItems?

end TypedStorage
