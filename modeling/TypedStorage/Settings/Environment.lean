/-
Files of environment variables. A line is a name, an equals sign and a value, perhaps after the word `export`;
a comment starts with a number sign. A value may be quoted: single quotes keep everything, double quotes know
escapes and replace variables by their values, as values without quotes do. Quotes may span lines. A variable
that is set already keeps its value.
-/
import TypedStorage.KeyMap
import TypedStorage.Text.Blank

namespace TypedStorage.Environment

open Text

/-- The values of the variables that are set. -/
abbrev Variables := KeyMap String

/-! ## Lines -/

/-- Where a scan for the end of an entry stands. -/
inductive Scan where
  | outside
  | blank
  | escape
  | single (escaped : Bool)
  | double (escaped : Bool)
  deriving DecidableEq

namespace Scan

/-- The state after a character outside quotes. -/
def plain (c : Char) : Scan :=
  if c = '\\' then .escape else if c = '"' then .double false else if c = '\x27' then .single false else .outside

def next (s : Scan) (c : Char) : Scan :=
  match s with
  | .outside => if isBlank c && c ≠ '\n' && c ≠ '\r' then .blank else plain c
  | .blank => plain c
  | .escape => .outside
  | .single true => .single false
  | .single false => if c = '\\' then .single true else if c = '\x27' then .outside else .single false
  | .double true => .double false
  | .double false => if c = '\\' then .double true else if c = '"' then .outside else .double false

/-- The state after a line, unless a comment starts: then what stands in front of it. -/
def run : Scan → List Char → List Char → Scan ⊕ List Char
  | s, _, [] => .inl s
  | s, seen, c :: cs => if s = .blank ∧ c = '#' then .inr seen.reverse else (s.next c).run (c :: seen) cs

end Scan

/-- The lines of a text, each with the line end that closes it. -/
def lines : List Char → List (List Char)
  | [] => []
  | c :: cs =>
    if c = '\n' then [c] :: lines cs
    else match lines cs with
      | [] => [[c]]
      | line :: rest => (c :: line) :: rest

/-- The line without its end. -/
def withoutEnd (cs : List Char) : List Char :=
  match cs.reverse with
  | '\n' :: '\r' :: rest => rest.reverse
  | '\n' :: rest => rest.reverse
  | _ => cs

/-- The entries of some lines: an entry whose quotes are open goes on with the next line. -/
def entries? (s : Scan) (before : List Char) : List (List Char) → Option (List (List Char))
  | [] => if s = .outside then some [] else none
  | line :: rest =>
    let entry := before ++ line
    if (trimStart entry).head? = some '#' then entries? .outside [] rest
    else match s.run [] line with
      | .inr front => (entries? .outside [] rest).map ((before ++ front) :: ·)
      | .inl .outside => (entries? .outside [] rest).map (withoutEnd entry :: ·)
      | .inl s => entries? s entry rest

/-! ## Values -/

/-- Where the reading of a value stands. -/
inductive Mode where
  | plain (quoted : Bool)
  | escape (quoted : Bool)
  | single
  /-- After a dollar sign, with the name so far. -/
  | variable (quoted : Bool) (name : List Char)
  /-- The name stands in braces. -/
  | braces (quoted : Bool) (name : List Char)
  /-- Only blanks and a comment may follow. -/
  | done

def escaped? (c : Char) : Option Char :=
  if c = 'n' then some '\n' else if "\\\x27\"$ ".toList.contains c then some c else none

/-- The value of a variable, which is empty if there is none. A set variable counts before an earlier entry. -/
def lookup (set earlier : Variables) (name : List Char) : List Char :=
  ((set.get? (String.ofList name) <|> earlier.get? (String.ofList name)).getD "").toList

/-- The rest of a value. -/
def value? (lookup : List Char → List Char) : Mode → List Char → Option (List Char)
  | .plain false, [] | .escape false, [] | .done, [] => some []
  | .variable false name, [] => some (lookup name)
  | _, [] => none
  | .done, c :: cs =>
    if c = ' ' ∨ c = '\t' then value? lookup .done cs else if c = '#' then some [] else none
  | .escape quoted, c :: cs => do
    let e ← escaped? c
    return e :: (← value? lookup (.plain quoted) cs)
  | .single, c :: cs =>
    if c = '\x27' then value? lookup (.plain false) cs else (value? lookup .single cs).map (c :: ·)
  | .variable quoted name, c :: cs =>
    if c.isAlphanum then value? lookup (.variable quoted (name ++ [c])) cs
    else if c = '{' ∧ name = [] then value? lookup (.braces quoted []) cs
    else if c = '$' then (value? lookup (.variable quoted []) cs).map (lookup name ++ ·)
    else (value? lookup (.plain quoted) cs).map fun rest => lookup name ++ c :: rest
  | .braces quoted name, c :: cs =>
    if c = '}' then (value? lookup (.plain quoted) cs).map (lookup name ++ ·)
    else value? lookup (.braces quoted (name ++ [c])) cs
  | .plain quoted, c :: cs =>
    if c = '$' then value? lookup (.variable quoted []) cs
    else if c = '\\' then value? lookup (.escape quoted) cs
    else if c = '"' then value? lookup (.plain !quoted) cs
    else if quoted then (value? lookup (.plain true) cs).map (c :: ·)
    else if c = '\x27' then value? lookup .single cs
    else if c = ' ' ∨ c = '\t' then value? lookup .done cs
    else (value? lookup (.plain false) cs).map (c :: ·)

/-! ## Entries -/

def isNameChar (c : Char) : Bool := c.isAlphanum || c = '_' || c = '.'

def name? (cs : List Char) : Option (List Char × List Char) :=
  if cs.head?.any fun c => c.isAlpha || c = '_' then
    some (cs.takeWhile isNameChar, trimStart (cs.dropWhile isNameChar))
  else none

def afterEquals? : List Char → Option (List Char)
  | '=' :: cs => some (trimStart cs)
  | _ => none

/-- The name of an entry and the text of its value; the word `export` may be a name too. -/
def split? (cs : List Char) : Option (String × List Char) := do
  let (name, rest) ← name? cs
  match afterEquals? rest with
  | some value => return (String.ofList name, value)
  | none =>
    guard (name = "export".toList)
    let (name, rest) ← name? rest
    return (String.ofList name, ← afterEquals? rest)

/-- The variables that are set, and the values of the entries so far. -/
structure State where
  set : Variables
  earlier : Variables

namespace State

def entry? (s : State) (line : List Char) : Option State := do
  let cs := trimChars line
  if cs = [] ∨ cs.head? = some '#' then return s
  let (name, text) ← split? cs
  let value ← if text.head? = some '#' then some [] else value? (lookup s.set s.earlier) (.plain false) text
  let value := String.ofList value
  return ⟨if s.set.contains name then s.set else s.set.insert name value, s.earlier.insert name value⟩

end State

/-- The variables that are set after reading a file; a byte order mark may open it. -/
def load? (set : Variables) (text : String) : Option Variables := do
  let cs := match text.toList with
    | '\ufeff' :: cs => cs
    | cs => cs
  let s ← (← entries? .outside [] (lines cs)).foldlM State.entry? ⟨set, .empty⟩
  return s.set

end TypedStorage.Environment
