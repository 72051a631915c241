/-
Decimal digits: a natural number as a word over 0–9 and back, words of a fixed width, integers with a sign,
and hexadecimal pairs for bytes. Writing is canonical; reading says exactly what it takes.
-/
namespace TypedStorage.Text

/-- The number a word of digits stands for; the first digit weighs most. -/
def digitsValue (cs : List Char) : Nat := Nat.ofDigitChars 10 cs 0

/-- A natural number without leading zeros. -/
def natDigits (n : Nat) : List Char := Nat.toDigits 10 n

/-- The last `width` digits of a number, zeros in front. -/
def fixedDigits : Nat → Nat → List Char
  | 0, _ => []
  | width + 1, n => fixedDigits width (n / 10) ++ [Nat.digitChar (n % 10)]

/-- At least `width` digits, zeros in front where the number has fewer. -/
def paddedDigits (width n : Nat) : List Char :=
  List.replicate (width - (natDigits n).length) '0' ++ natDigits n

/-- A minus in front of a negative number, nothing in front of another. -/
def intDigits (i : Int) : List Char :=
  if i < 0 then '-' :: natDigits i.natAbs else natDigits i.natAbs

def intText (i : Int) : String := String.ofList (intDigits i)

/-- A word of digits, and nothing but digits, at least one. -/
def readNat? (cs : List Char) : Option Nat :=
  if cs.isEmpty then none else if cs.all Char.isDigit then some (digitsValue cs) else none

/-- An integer: at most one sign, then digits. -/
def readInt? : List Char → Option Int
  | '-' :: cs => (readNat? cs).map fun n => -(n : Int)
  | '+' :: cs => (readNat? cs).map fun n => (n : Int)
  | cs => (readNat? cs).map fun n => (n : Int)

/-- The front of a text as long as it is digits, and the rest. -/
def spanDigits (cs : List Char) : List Char × List Char := (cs.takeWhile Char.isDigit, cs.dropWhile Char.isDigit)

/-- Exactly `width` digits off the front, as a number, and the rest. -/
def takeDigits? (width : Nat) (cs : List Char) : Option (Nat × List Char) :=
  let word := cs.take width
  if word.length = width ∧ word.all Char.isDigit then some (digitsValue word, cs.drop width) else none

/-! ## Hexadecimal bytes -/

def hexValue? (c : Char) : Option Nat :=
  if c.isDigit then some (c.toNat - '0'.toNat)
  else if 'a' ≤ c ∧ c ≤ 'f' then some (c.toNat - 'a'.toNat + 10)
  else if 'A' ≤ c ∧ c ≤ 'F' then some (c.toNat - 'A'.toNat + 10)
  else none

/-- Two lowercase digits per byte. -/
def hexByte (b : UInt8) : List Char := [Nat.digitChar (b.toNat / 16), Nat.digitChar (b.toNat % 16)]

def hexText (bytes : List UInt8) : String := String.ofList (bytes.flatMap hexByte)

/-- Bytes from pairs of digits, in either case. -/
def readHexChars? : List Char → Option (List UInt8)
  | [] => some []
  | high :: low :: cs => do
    let h ← hexValue? high
    let l ← hexValue? low
    let rest ← readHexChars? cs
    return UInt8.ofNat (16 * h + l) :: rest
  | [_] => none

def readHex? (s : String) : Option (List UInt8) := readHexChars? s.toList

end TypedStorage.Text
