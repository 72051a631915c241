/-
Reading TOML. A document is lines, each of which opens a table, opens one more of a row of tables, adds a member
to the table that was opened last, or is blank.
-/
import TypedStorage.Toml.Quoted
import TypedStorage.Toml.Scalar

namespace TypedStorage.Toml

/-! ## Keys -/

def isBareChar (c : Char) : Bool := c.isAlphanum || c = '_' || c = '-'

/-- One name of a key. -/
def name? : List Char → Option (String × List Char)
  | [] => none
  | c :: cs =>
    if c = '"' ∨ c = '\x27' then lineString? c cs
    else
      let word := (c :: cs).takeWhile isBareChar
      if word = [] then none else some (String.ofList word, (c :: cs).dropWhile isBareChar)

/-- Names with points between them, and blanks around; every name takes a character, which `fuel` counts. -/
def names? : Nat → List Char → Option (List String × List Char)
  | 0, _ => none
  | fuel + 1, cs => do
    let (name, rest) ← name? (skipWhite cs)
    match skipWhite rest with
    | '.' :: rest =>
      let (names, rest) ← names? fuel rest
      return (name :: names, rest)
    | rest => return ([name], rest)

/-- A key as the path to a table and a name in it. -/
def key? (cs : List Char) : Option (List String × String × List Char) := do
  let (names, rest) ← names? (cs.length + 1) cs
  return (names.dropLast, ← names.getLast?, rest)

/-! ## Values -/

/-- Arrays and tables in braces may stand in one another this deep. -/
def maxDepth : Nat := 80

mutual

/-- A value; `fuel` bounds the calls, and `depth` how many arrays and tables may still stand in one another. -/
def value? : Nat → Nat → List Char → Option (Toml × List Char)
  | 0, _, _ => none
  | fuel + 1, depth, cs =>
    match cs, depth with
    | '[' :: _, 0 | '{' :: _, 0 => none
    | '[' :: cs, depth + 1 => do
      let (items, rest) ← items? fuel depth cs
      return (.array items, rest)
    | '{' :: cs, depth + 1 => do
      let (members, rest) ← members? fuel depth [] cs
      return (.table .braces members, rest)
    | c :: cs, _ =>
      if c = '"' ∨ c = '\x27' then (string? c cs).map fun (s, rest) => (.string s, rest)
      else scalar? (c :: cs)
    | [], _ => none

/-- The items up to the closing bracket; a comma may follow the last. -/
def items? : Nat → Nat → List Char → Option (List Toml × List Char)
  | 0, _, _ => none
  | fuel + 1, depth, cs => do
    match ← skipBlank? false cs with
    | ']' :: rest => return ([], rest)
    | cs =>
      let (item, rest) ← value? fuel depth cs
      match ← skipBlank? false rest with
      | ',' :: rest =>
        let (items, rest) ← items? fuel depth rest
        return (item :: items, rest)
      | ']' :: rest => return ([item], rest)
      | _ => none

/-- The members up to the closing brace, after those that are there; a comma may follow the last. -/
def members? : Nat → Nat → Members → List Char → Option (Members × List Char)
  | 0, _, _, _ => none
  | fuel + 1, depth, members, cs => do
    match ← skipBlank? false cs with
    | '}' :: rest => return (members, rest)
    | cs =>
      let (path, name, rest) ← key? cs
      let (value, rest) ← value? fuel depth (skipWhite (← after? ['='] rest))
      let (_, members) ← addDotted path name value .braces members
      match ← skipBlank? false rest with
      | ',' :: rest => members? fuel depth members rest
      | '}' :: rest => return (members, rest)
      | _ => none

end

/-! ## Lines -/

/-- A document so far, and the path of the table that lines add to. -/
structure Draft where
  members : Members
  current : List String

namespace Draft

def change? (d : Draft) (change : Change) (current : List String) : Option Draft := do
  let (_, members) ← change .header d.members
  return ⟨members, current⟩

/-- The line at the front, up to what ends it, and the rest. -/
def line? (d : Draft) (cs : List Char) : Option (Draft × List Char) := do
  match cs with
  | '[' :: '[' :: cs =>
    let (path, name, rest) ← key? cs
    return (← d.change? (openItem path name) (path ++ [name]), ← after? [']', ']'] rest)
  | '[' :: cs =>
    let (path, name, rest) ← key? cs
    return (← d.change? (openTable path name) (path ++ [name]), ← after? [']'] rest)
  | cs =>
    let (path, name, rest) ← key? cs
    let cs := skipWhite (← after? ['='] rest)
    let (value, rest) ← value? (2 * cs.length + 2) maxDepth cs
    return (← d.change? (enter false (addDotted path name value) d.current) d.current, rest)

/-- All lines; each takes at least one character, which `fuel` counts. -/
def lines? : Nat → Draft → List Char → Option Draft
  | 0, _, _ => none
  | fuel + 1, d, cs => do
    match ← skipBlank? false cs with
    | [] => return d
    | cs =>
      let (d, rest) ← d.line? cs
      lines? fuel d (← skipLine? false rest)

end Draft

/-- The document of a text, which may start with a byte order mark. -/
def ofText? (s : String) : Option Toml := do
  let cs := match s.toList with
    | '\ufeff' :: cs => cs
    | cs => cs
  let d ← Draft.lines? (cs.length + 1) ⟨[], []⟩ cs
  return .table .header d.members

end TypedStorage.Toml
