/-
The text of a double by itself: its shortest digits, written out in full and never with an exponent, a half
going up; whole numbers have no point. Reading takes that and more: a sign, digits with a point anywhere
among them, an exponent, the names of infinity and NaN in any case.
-/
import TypedStorage.Double.Shortest

namespace TypedStorage.Double

open Text

/-- A decimal number without an exponent. -/
def plainDigits (d : Decimal) : List Char :=
  let word := natDigits d.digits
  if 0 ≤ d.exponent then word ++ List.replicate d.exponent.toNat '0'
  else
    let places := (-d.exponent).toNat
    if places < word.length then word.take (word.length - places) ++ '.' :: word.drop (word.length - places)
    else ['0', '.'] ++ List.replicate (places - word.length) '0' ++ word

def signed (negative : Bool) (cs : List Char) : List Char := if negative then '-' :: cs else cs

def textChars : Double → List Char
  | .nan => ['N', 'a', 'N']
  | .infinite n => signed n ['i', 'n', 'f']
  | .finite x => signed x.negative (plainDigits (if x.rank = 0 then ⟨0, 0⟩ else x.shortest .up))

def text (x : Double) : String := String.ofList x.textChars

/-! ## Reading -/

/-- The exponent after the digits: `e` or `E`, a sign, digits; or nothing. -/
def readExponent? : List Char → Option Int
  | [] => some 0
  | c :: cs => if c = 'e' ∨ c = 'E' then readInt? cs else none

/-- Digits, a point among them or not, at least one digit, and an exponent. -/
def readDecimal? (cs : List Char) : Option Decimal := do
  let (whole, rest) := spanDigits cs
  let (fraction, rest) := match rest with
    | '.' :: r => spanDigits r
    | r => ([], r)
  guard (whole ≠ [] ∨ fraction ≠ [])
  let e ← readExponent? rest
  return ⟨digitsValue (whole ++ fraction), e - fraction.length⟩

/-- A number without its sign. -/
def readUnsigned? (negative : Bool) (cs : List Char) : Option Double :=
  let name := String.ofList (cs.map Char.toLower)
  if name = "inf" ∨ name = "infinity" then some (.infinite negative)
  else if name = "nan" then some .nan
  else (readDecimal? cs).map (ofDecimal negative)

def readChars? : List Char → Option Double
  | '-' :: cs => readUnsigned? true cs
  | '+' :: cs => readUnsigned? false cs
  | cs => readUnsigned? false cs

def ofText? (s : String) : Option Double := readChars? s.toList

end TypedStorage.Double
