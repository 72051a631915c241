/-
Lexemes of the expressions that record declarations hold: words, literals, operators and brackets. Every text
has lexemes, an operator as long as it can be; only where no operand stands in front does `&&` count as two
references and `||` as an empty list of arguments, and inside angle brackets each `>` closes one.
Printed, lexemes have one space between them, but none after an opening round or square bracket and none before
a closing one. A literal has a value: the text of a string, a number, a truth value.
-/
import TypedStorage.Text.Blank
import TypedStorage.Text.Quoted
import TypedStorage.Scalar.Basic

namespace TypedStorage

inductive Delimiter where
  | round | square | curly
  deriving DecidableEq

inductive Lexeme where
  | word (cs : List Char)
  | literal (cs : List Char)
  | operator (cs : List Char)
  | opening (d : Delimiter)
  | closing (d : Delimiter)
  deriving DecidableEq

/-- A value as a declaration writes it. -/
abbrev Expression := List Lexeme

namespace Delimiter

def openChar : Delimiter → Char
  | .round => '('
  | .square => '['
  | .curly => '{'

def closeChar : Delimiter → Char
  | .round => ')'
  | .square => ']'
  | .curly => '}'

def all : List Delimiter := [.round, .square, .curly]

/-- Content stands close to the bracket. -/
def isTight (d : Delimiter) : Bool := d != .curly

end Delimiter

namespace Lexeme

/-! ## Printing -/

def chars : Lexeme → List Char
  | .word cs | .literal cs | .operator cs => cs
  | .opening d => [d.openChar]
  | .closing d => [d.closeChar]

/-- No space stands between two such neighbours. -/
def joins : Lexeme → Lexeme → Bool
  | .opening d, _ => d.isTight
  | _, .closing d => d.isTight
  | _, _ => false

def joinChars : List Lexeme → List Char
  | [] => []
  | [l] => l.chars
  | l :: m :: rest => l.chars ++ (if joins l m then [] else [' ']) ++ joinChars (m :: rest)

def text (e : Expression) : String := String.ofList (joinChars e)

/-! ## Reading -/

def isWordStart (c : Char) : Bool := c.isAlpha || c = '_' || 127 < c.toNat

def isWordPart (c : Char) : Bool := c.isAlphanum || c = '_' || 127 < c.toNat

/-- The operators of more than one character, longer ones first. -/
def operators : List (List Char) := [
  "<<=", ">>=", "...", "..=", "::", "->", "=>", "==", "!=", "<=", ">=", "&&", "||", "+=", "-=", "*=",
  "/=", "%=", "^=", "&=", "|=", "<<", ">>", ".."].map String.toList

/-- A text up to the quote that ends it, a backslash taking the next character along; and the rest. -/
def quotedPart (quote : Char) : List Char → List Char × List Char
  | [] => ([], [])
  | '\\' :: c :: rest =>
    let (part, rest) := quotedPart quote rest
    ('\\' :: c :: part, rest)
  | c :: rest =>
    if c = quote then ([c], rest)
    else
      let (part, rest) := quotedPart quote rest
      (c :: part, rest)

/-- A text up to a quote with this many hashes behind it, and the rest. -/
def rawPart (hashes : Nat) : List Char → List Char × List Char
  | [] => ([], [])
  | c :: rest =>
    if c = '"' ∧ (List.replicate hashes '#').isPrefixOf rest then (c :: rest.take hashes, rest.drop hashes)
    else
      let (part, rest) := rawPart hashes rest
      (c :: part, rest)

/-- A text between quotes that may be raw, after the letters that may stand in front of it. -/
def stringLiteral? (cs : List Char) : Option (List Char × List Char) :=
  let mark := cs.takeWhile Char.isAlpha
  let rest := cs.dropWhile Char.isAlpha
  let hashes := rest.takeWhile (· = '#')
  if ["", "b", "c"].contains (String.ofList mark) then
    match rest with
    | '"' :: body =>
      let (part, rest) := quotedPart '"' body
      some (mark ++ '"' :: part, rest)
    | '\'' :: body =>
      if mark = ['b'] then
        let (part, rest) := quotedPart '\'' body
        some (mark ++ '\'' :: part, rest)
      else none
    | _ => none
  else if ["r", "br", "cr"].contains (String.ofList mark) then
    match rest.drop hashes.length with
    | '"' :: body =>
      let (part, rest) := rawPart hashes.length body
      some (mark ++ hashes ++ '"' :: part, rest)
    | _ => none
  else none

/-- A character between single quotes, or a name after one. -/
def characterOrLifetime : List Char → Lexeme × List Char
  | '\\' :: rest =>
    let (part, rest) := quotedPart '\'' ('\\' :: rest)
    (.literal ('\'' :: part), rest)
  | c :: '\'' :: rest => (.literal ['\'', c, '\''], rest)
  | rest => (.word ('\'' :: rest.takeWhile isWordPart), rest.dropWhile isWordPart)

/-- A number with its fraction, exponent and suffix. -/
def numberLiteral (cs : List Char) : List Char × List Char :=
  let whole := cs.takeWhile isWordPart
  let rest := cs.dropWhile isWordPart
  let (whole, rest) := match rest with
    | '.' :: rest' =>
      if (rest'.head?.map fun c => c = '.' || isWordStart c).getD false then (whole, rest)
      else (whole ++ '.' :: rest'.takeWhile isWordPart, rest'.dropWhile isWordPart)
    | _ => (whole, rest)
  let radix := ["0x", "0o", "0b"].any fun p => p.toList.isPrefixOf whole
  match rest with
  | sign :: rest' =>
    if !radix ∧ (sign = '+' ∨ sign = '-') ∧ (whole.getLast?.map (·.toLower)) = some 'e'
        ∧ (rest'.head?.map Char.isDigit).getD false then
      (whole ++ sign :: rest'.takeWhile isWordPart, rest'.dropWhile isWordPart)
    else (whole, rest)
  | [] => (whole, rest)

/-- Where a reader stands: after an operand or not, after `::` or not, and inside how many angle brackets. -/
structure Place where
  afterOperand : Bool
  afterPath : Bool
  angles : Nat

namespace Place

def start : Place := ⟨false, false, 0⟩

/-- An opening angle bracket is meant where no comparison can stand. -/
def opensAngle (p : Place) : Bool := !p.afterOperand || p.afterPath || 0 < p.angles

def next (p : Place) : Lexeme → Place
  | .operator ['<'] => if p.opensAngle then ⟨false, false, p.angles + 1⟩ else ⟨false, false, p.angles⟩
  | .operator ['>'] => ⟨0 < p.angles, false, p.angles - 1⟩
  | .operator cs => ⟨cs = ['?'], cs = [':', ':'], p.angles⟩
  | .opening _ => ⟨false, false, p.angles⟩
  | _ => ⟨true, false, p.angles⟩

/-- The operator at the front of a text. -/
def operator (p : Place) (c : Char) (rest : List Char) : List Char :=
  if c = '>' ∧ 0 < p.angles then ['>']
  else match operators.find? (·.isPrefixOf (c :: rest)) with
    | none => [c]
    | some op => if !p.afterOperand ∧ (op = ['&', '&'] ∨ op = ['|', '|']) then [c] else op

end Place

/-- The lexeme at the front of a text that starts with this character, and the rest. -/
def first (p : Place) (c : Char) (rest : List Char) : Lexeme × List Char :=
  match stringLiteral? (c :: rest) with
  | some (cs, rest) => (.literal cs, rest)
  | none =>
    if "r#".toList.isPrefixOf (c :: rest) then
      (.word ('r' :: '#' :: (rest.drop 1).takeWhile isWordPart), (rest.drop 1).dropWhile isWordPart)
    else if isWordStart c then (.word (c :: rest.takeWhile isWordPart), rest.dropWhile isWordPart)
    else if c.isDigit then
      let (cs, rest) := numberLiteral (c :: rest)
      (.literal cs, rest)
    else if c = '\'' then characterOrLifetime rest
    else match Delimiter.all.find? (·.openChar = c), Delimiter.all.find? (·.closeChar = c) with
      | some d, _ => (.opening d, rest)
      | none, some d => (.closing d, rest)
      | none, none =>
        let op := p.operator c rest
        (.operator op, (c :: rest).drop op.length)

/-- The lexemes of a text; every one takes a character off it, so the text's length bounds them. -/
def scan : Nat → Place → List Char → Expression
  | 0, _, _ => []
  | _ + 1, _, [] => []
  | fuel + 1, p, c :: rest =>
    if Text.isBlank c then scan fuel p rest
    else
      let (l, rest) := first p c rest
      l :: scan fuel (p.next l) rest

def ofText (s : String) : Expression := scan s.length .start s.toList

/-! ## Values -/

/-- The character that an escape stands for, after the backslash, and the rest. -/
def escaped? : List Char → Option (Char × List Char)
  | 'n' :: rest => some ('\n', rest)
  | 'r' :: rest => some ('\r', rest)
  | 't' :: rest => some ('\t', rest)
  | '0' :: rest => some ('\x00', rest)
  | '\\' :: rest => some ('\\', rest)
  | '\'' :: rest => some ('\'', rest)
  | '"' :: rest => some ('"', rest)
  | 'x' :: high :: low :: rest => do
    let h ← Text.hexValue? high
    let l ← Text.hexValue? low
    return (Char.ofNat (16 * h + l), rest)
  | 'u' :: '{' :: rest => do
    let digits ← ((rest.takeWhile (· != '}')).filter (· != '_')).mapM Text.hexValue?
    return (Char.ofNat (digits.foldl (fun n d => 16 * n + d) 0), (rest.dropWhile (· != '}')).drop 1)
  | _ => none

/-- The text between quotes; a backslash before a line end takes the blanks of the next line away. -/
def unescape : Nat → List Char → List Char
  | 0, _ => []
  | _ + 1, [] => []
  | fuel + 1, '\\' :: '\n' :: rest => unescape fuel (rest.dropWhile Char.isWhitespace)
  | fuel + 1, '\\' :: rest =>
    match escaped? rest with
    | some (c, rest) => c :: unescape fuel rest
    | none => '\\' :: unescape fuel rest
  | fuel + 1, c :: rest => c :: unescape fuel rest

/-- The text that a string literal stands for; other literals stand for none. -/
def stringValue? : Lexeme → Option String
  | .literal ('"' :: body) => some (String.ofList (unescape body.length body.dropLast))
  | .literal ('r' :: rest) =>
    let hashes := rest.takeWhile (· = '#')
    let body := rest.drop (hashes.length + 1)
    some (String.ofList (body.take (body.length - hashes.length - 1)))
  | _ => none

/-- The number that a literal of digits, with underscores and maybe a suffix, stands for. -/
def numberValue? (cs : List Char) : Option Scalar :=
  let digits := (cs.takeWhile fun c => c.isDigit || c = '_').filter Char.isDigit
  let rest := cs.dropWhile fun c => c.isDigit || c = '_'
  if digits.isEmpty then none
  else if ["", "i8", "i16", "i32", "i64", "u8", "u16", "u32"].contains (String.ofList rest) then
    some (.integer (Int64.ofInt (Text.digitsValue digits)))
  else
    let plain := cs.filter (· != '_')
    let plain := if "f64".toList.isSuffixOf plain then plain.take (plain.length - 3) else plain
    (Double.ofText? (String.ofList plain)).map .real

def literalValue? : Lexeme → Option Scalar
  | .word cs => if cs = "true".toList then some (.boolean true) else if cs = "false".toList then some (.boolean false) else none
  | .literal cs =>
    match stringValue? (.literal cs) with
    | some s => some (.text s)
    | none => numberValue? cs
  | _ => none

/-- The scalar that an expression stands for if it is a literal, or a number with a minus in front. -/
def scalar? : Expression → Option Scalar
  | [l] => literalValue? l
  | [.operator ['-'], l] =>
    match literalValue? l with
    | some (.integer i) => some (.integer (-i))
    | some (.real x) => some (.real x.negate)
    | _ => none
  | _ => none

end Lexeme

end TypedStorage
