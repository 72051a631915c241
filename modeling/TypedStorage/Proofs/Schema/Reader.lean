/-
A reader for the statements that create tables, which takes a text back to the table it declares. It is no part of
what writes them and knows nothing of it. The text is cut into words and marks, where nothing between two single
quotes cuts a word, and the rest is a grammar that never has to look back. What it says of the statements is in
`TypedStorage.Proofs.Schema.Faithful`.
-/
import TypedStorage.Proofs.Query.Reader
import TypedStorage.Schema.Table

namespace TypedStorage

/-! ## Words and marks -/

namespace Token

/-- What stands between words. -/
def isMark (c : Char) : Bool := c = ' ' || c = ',' || c = '(' || c = ')'

/-- The tokens of a text that a word goes on in front of, which may have a quote open. -/
def cutFrom : Bool → List Char → List Char → List Token
  | _, w, [] => ofChars w
  | quoted, w, c :: cs =>
    if !quoted && isMark c then ofChars w ++ (ofMark c ++ cutFrom false [] cs)
    else cutFrom (quoted ^^ c = '\'') (w ++ [c]) cs

end Token

/-- The tokens of a text with quotes in it. -/
def Item.cut (s : String) : List Item := (Token.cutFrom false [] s.toList).map .token

/-! ## Tables as they are declared -/

/-- A column as its clause declares it; a default is the literal that stands there. -/
structure DeclaredColumn where
  name : String
  type : ColumnType
  key : Bool
  notNull : Bool
  unique : Bool
  default : Option String
  deriving DecidableEq

/-- A clause between the parentheses. -/
inductive TableClause where
  | column (c : DeclaredColumn)
  | key (columns : List String)
  deriving DecidableEq

/-- The column, if the clause declares one. -/
def TableClause.column? : TableClause → Option DeclaredColumn
  | .column c => some c
  | .key _ => none

structure CreateStatement where
  name : String
  options : TableOptions
  clauses : List TableClause
  deriving DecidableEq

namespace ColumnType

/-- The types that are no type of their own. -/
def builtIn : List ColumnType := [.text, .integer, .real, .double, .numeric, .boolean, .date, .blob, .any]

end ColumnType

/-! ## Readers -/

namespace ItemReader

/-- Whether this text stands there. -/
def flag? (s : String) : ItemReader Bool := fun is =>
  match after? s is with
  | some rest => some (true, rest)
  | none => some (false, is)

def type? : ItemReader ColumnType := fun is => do
  let (w, rest) ← name? is
  let t ← ColumnType.builtIn.find? (·.keyword = w)
  return (t, rest)

def default? : ItemReader (Option String) := fun is =>
  match after? "DEFAULT" is with
  | some rest => (name? rest).map fun (w, rest) => (some w, rest)
  | none => some (none, is)

def column? : ItemReader DeclaredColumn := fun is => do
  let (name, rest) ← name? is
  let (type, rest) ← type? rest
  let (key, rest) ← flag? "PRIMARY KEY" rest
  let (notNull, rest) ← flag? "NOT NULL" rest
  let (unique, rest) ← flag? "UNIQUE" rest
  let (default, rest) ← default? rest
  return (⟨name, type, key, notNull, unique, default⟩, rest)

def clause? : ItemReader TableClause := fun is =>
  match after? "PRIMARY KEY" is with
  | some rest => (bracketed? name? rest).map fun (names, rest) => (.key names, rest)
  | none => (column? is).map fun (c, rest) => (.column c, rest)

/-- The clauses between the parentheses, which may be none. -/
def clauses? : ItemReader (List TableClause) := fun is =>
  match after? "()" is with
  | some rest => some ([], rest)
  | none => bracketed? clause? is

end ItemReader

namespace CreateStatement

open ItemReader

def ofItems? (is : List Item) : Option CreateStatement := do
  let rest ← after? "CREATE" is
  let (temporary, rest) ← flag? "TEMPORARY" rest
  let rest ← after? "TABLE" rest
  let (ifNotExists, rest) ← flag? "IF NOT EXISTS" rest
  let (name, rest) ← name? rest
  let (clauses, rest) ← clauses? rest
  let (withoutRowId, rest) ← flag? "WITHOUT ROWID" rest
  let (_, rest) ← flag? "," rest
  let (strict, rest) ← flag? "STRICT" rest
  if rest.isEmpty then some ⟨name, ⟨ifNotExists, temporary, withoutRowId, strict⟩, clauses⟩ else none

/-- What a text declares. -/
def ofSql? (s : String) : Option CreateStatement := ofItems? (Item.cut s)

/-- The columns it declares, in order. -/
def columns (s : CreateStatement) : List DeclaredColumn := s.clauses.filterMap TableClause.column?

end CreateStatement

end TypedStorage
