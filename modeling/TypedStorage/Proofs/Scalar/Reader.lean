/-
A reader for the literals inside statements, which takes the front of a text for a value and leaves the rest. It is no
part of what writes them and knows nothing of it. A text stands between single quotes, a doubled quote in it for one,
so that only the next character tells a quote inside from the one that closes; bytes are digits between quotes behind
an X; a numeral with a point or an exponent is a real number, and one without is an integer where it fits. What it
says of the literals is in `TypedStorage.Proofs.Scalar.Literal` and `TypedStorage.Proofs.Scalar.Defaults`.
-/
import TypedStorage.Engine.Stored

namespace TypedStorage

open Text Engine

/-! ## Numerals -/

/-- A numeral as it is written; a fraction is what stands behind a point, an exponent what stands behind an `e`. -/
structure Numeral where
  negative : Bool
  whole : List Char
  fraction : Option (List Char)
  exponent : Option Int
  deriving DecidableEq

namespace Numeral

/-- Whether it writes a real number, however whole the number may be. -/
def isReal (n : Numeral) : Bool := n.fraction.isSome || n.exponent.isSome

/-- All the digits as one number, and where the point stands in them. -/
def decimal (n : Numeral) : Decimal :=
  let fraction := n.fraction.getD []
  ⟨digitsValue (n.whole ++ fraction), n.exponent.getD 0 - fraction.length⟩

def double (n : Numeral) : Double := Double.ofDecimal n.negative n.decimal

/-- The number in front of the point. -/
def integer (n : Numeral) : Int := if n.negative then -(digitsValue n.whole : Int) else digitsValue n.whole

/-- The value: integers have 64 bits, and what is beyond them is a real number. -/
def value (n : Numeral) : Stored :=
  if n.isReal = false ∧ -0x8000000000000000 ≤ n.integer ∧ n.integer < 0x8000000000000000 then
    .integer (Int64.ofInt n.integer)
  else .real n.double

/-- Whether a minus stands there, and what follows it. -/
def sign : List Char → Bool × List Char
  | '-' :: cs => (true, cs)
  | cs => (false, cs)

/-- The digits behind a point, if one stands there. -/
def fractionOf : List Char → Option (List Char) × List Char
  | '.' :: cs => (some (spanDigits cs).1, (spanDigits cs).2)
  | cs => (none, cs)

/-- The number behind an `e`, if one stands there; it has a digit. -/
def exponentOf? : List Char → Option (Option Int × List Char)
  | [] => some (none, [])
  | c :: cs =>
    if c = 'e' ∨ c = 'E' then
      let (negative, cs) := match cs with
        | '+' :: cs => (false, cs)
        | cs => sign cs
      let (word, rest) := spanDigits cs
      if word.isEmpty then none
      else some (some (if negative then -(digitsValue word : Int) else digitsValue word), rest)
    else some (none, c :: cs)

/-- The numeral at the front, with a digit in front of the point. -/
def read? (cs : List Char) : Option (Numeral × List Char) := do
  let (negative, cs) := sign cs
  let (whole, cs) := spanDigits cs
  guard (!whole.isEmpty)
  let (fraction, cs) := fractionOf cs
  let (exponent, rest) ← exponentOf? cs
  return (⟨negative, whole, fraction, exponent⟩, rest)

end Numeral

/-! ## Literals -/

namespace Literal

/-- The text up to the quote that closes it, and what follows. -/
def unquote? : List Char → Option (List Char × List Char)
  | [] => none
  | '\'' :: '\'' :: cs => (unquote? cs).map fun (text, rest) => ('\'' :: text, rest)
  | '\'' :: rest => some ([], rest)
  | c :: cs => (unquote? cs).map fun (text, rest) => (c :: text, rest)

/-- The bytes up to the quote that closes them, and what follows. -/
def bytes? (cs : List Char) : Option (List UInt8 × List Char) :=
  match cs.dropWhile (· ≠ '\'') with
  | [] => none
  | _ :: rest => (readHexChars? (cs.takeWhile (· ≠ '\''))).map fun bytes => (bytes, rest)

/-- The word at the front, in uppercase. -/
def word (cs : List Char) : List Char := (cs.takeWhile Char.isAlphanum).map Char.toUpper

/-- A value without quotes: null, or a number. -/
def bare? (cs : List Char) : Option (Stored × List Char) :=
  if word cs = ['N', 'U', 'L', 'L'] then some (.null, cs.dropWhile Char.isAlphanum)
  else (Numeral.read? cs).map fun (n, rest) => (n.value, rest)

/-- The value at the front of a text, and what follows. -/
def read? : List Char → Option (Stored × List Char)
  | '\'' :: cs => (unquote? cs).map fun (text, rest) => (.text (String.ofList text), rest)
  | 'X' :: '\'' :: cs | 'x' :: '\'' :: cs => (bytes? cs).map fun (bytes, rest) => (.blob bytes, rest)
  | cs => bare? cs

/-- The value of a whole text as a default: a literal, or a word of letters for itself. -/
def default? (s : String) : Option Stored :=
  match read? s.toList with
  | some (v, []) => some v
  | _ => if s.toList ≠ [] ∧ s.toList.all Char.isAlpha then some (.text s) else none

end Literal

/-- Nothing follows that could go on a literal. -/
def EndsLiteral (rest : List Char) : Prop := ∀ c ∈ rest.head?, c ≠ '\'' ∧ c.isAlphanum = false ∧ c ≠ '.'

end TypedStorage
