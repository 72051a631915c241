/-
Strings of TOML: in double quotes with escapes or in single quotes without, on one line, or over many in
quotes three times. A string over many lines leaves out a line end right after its opening, and may end with
one or two quotes in front of the closing ones; a backslash at the end of a line leaves out the blanks and line
ends that follow.
-/
import TypedStorage.Text.Digits
import TypedStorage.Toml.Blank

namespace TypedStorage.Toml

open Text

/-- The character of a one-letter escape. -/
def simpleEscape? : Char → Option Char
  | '"' => some '"'
  | '\\' => some '\\'
  | 'b' => some '\x08'
  | 'e' => some '\x1b'
  | 'f' => some '\x0c'
  | 'n' => some '\n'
  | 'r' => some '\r'
  | 't' => some '\t'
  | _ => none

/-- The character whose number is written in hexadecimal digits. -/
def numbered? (digits : List Char) : Option Char := do
  let values ← digits.mapM hexValue?
  let n := values.foldl (fun n d => 16 * n + d) 0
  if n.isValidChar then some (Char.ofNat n) else none

/-- The character of the escape after a backslash, and what follows. -/
def escape? : List Char → Option (Char × List Char)
  | [] => none
  | c :: cs =>
    let take (width : Nat) : Option (Char × List Char) :=
      if cs.length < width then none else (numbered? (cs.take width)).map (·, cs.drop width)
    match c with
    | 'x' => take 2
    | 'u' => take 4
    | 'U' => take 8
    | c => (simpleEscape? c).map (·, cs)

/-- One step through a string over one line: what it gives, what follows, and whether the string ends. -/
def lineStep? (quote : Char) : List Char → Option (List Char × List Char × Bool)
  | [] => none
  | c :: cs =>
    if c = quote then some ([], cs, true)
    else if c = '\\' ∧ quote = '"' then (escape? cs).map fun (e, rest) => ([e], rest, false)
    else if isPlain c then some ([c], cs, false)
    else none

/-- The rest of a text after a word that it starts with. -/
def after? (word cs : List Char) : Option (List Char) :=
  if cs.take word.length = word then some (cs.drop word.length) else none

/-- What a backslash at the end of a line leaves out. -/
def skipLineEnds : List Char → List Char
  | '\r' :: '\n' :: cs => skipLineEnds cs
  | ' ' :: cs | '\t' :: cs | '\n' :: cs => skipLineEnds cs
  | cs => cs

def startsLine (cs : List Char) : Bool := cs.take 1 = ['\n'] || cs.take 2 = ['\r', '\n']

/-- One step through a string over many lines. -/
def blockStep? (quote : Char) : List Char → Option (List Char × List Char × Bool)
  | [] => none
  | c :: cs =>
    let closing (extra : Nat) : Option (List Char × List Char × Bool) :=
      (after? (List.replicate (extra + 3) quote) (c :: cs)).map fun rest => (List.replicate extra quote, rest, true)
    match closing 2 <|> closing 1 <|> closing 0 with
    | some step => some step
    | none =>
      if c = '\\' ∧ quote = '"' then
        if startsLine (skipWhite cs) then some ([], skipLineEnds cs, false)
        else (escape? cs).map fun (e, rest) => ([e], rest, false)
      else if c = '\n' ∨ (c = '\r' ∧ cs.head? = some '\n') ∨ isPlain c then some ([c], cs, false)
      else none

/-- The string that steps give, and what follows it; `fuel` bounds their number. -/
def runSteps? (step : List Char → Option (List Char × List Char × Bool)) : Nat → List Char → Option (List Char × List Char)
  | 0, _ => none
  | fuel + 1, cs => do
    let (out, rest, ends) ← step cs
    if ends then return (out, rest)
    let (more, rest) ← runSteps? step fuel rest
    return (out ++ more, rest)

/-- A string on one line after its opening quote. -/
def lineString? (quote : Char) (cs : List Char) : Option (String × List Char) :=
  (runSteps? (lineStep? quote) (cs.length + 1) cs).map fun (s, rest) => (String.ofList s, rest)

def skipFirstLineEnd : List Char → List Char
  | '\n' :: cs => cs
  | '\r' :: '\n' :: cs => cs
  | cs => cs

/-- A string over many lines after its opening quotes. -/
def blockString? (quote : Char) (cs : List Char) : Option (String × List Char) :=
  (runSteps? (blockStep? quote) (cs.length + 1) (skipFirstLineEnd cs)).map fun (s, rest) => (String.ofList s, rest)

def string? (quote : Char) (cs : List Char) : Option (String × List Char) :=
  match after? [quote, quote] cs with
  | some cs => blockString? quote cs
  | none => lineString? quote cs

end TypedStorage.Toml
