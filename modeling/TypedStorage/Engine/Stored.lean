/-
Values as tables store them: five classes, ordered null, numbers, text, bytes. Numbers compare by value,
whichever class they are of, text by code points. A column has an affinity, which it reads off the words of its
type, and turns a value into the class that suits it where that loses nothing.
-/
import TypedStorage.Scalar.Basic
import TypedStorage.Schema.Identifier

namespace TypedStorage.Engine

inductive Stored where
  | null
  | integer (i : Int64)
  | real (x : Double)
  | text (s : String)
  | blob (bytes : List UInt8)
  deriving DecidableEq

namespace Stored

def isNull : Stored → Bool
  | .null => true
  | _ => false

/-- A scalar as it is stored; NaN is no value. -/
def ofScalar : Scalar → Stored
  | .null => .null
  | .text s => .text s
  | .integer i => .integer i
  | .real .nan => .null
  | .real x => .real x
  | .boolean b => .integer (if b then 1 else 0)
  | .blob bytes => .blob bytes
  | .timestamp t => .text t.text
  | .uuid u => .text u.text
  | .json d => .text d.text

/-- The scalar that is read back. -/
def toScalar : Stored → Scalar
  | .null => .null
  | .integer i => .integer i
  | .real x => .real x
  | .text s => .text s
  | .blob bytes => .blob bytes

/-- The name of the class in messages. -/
def className : Stored → String
  | .null => "NULL"
  | .integer _ => "INT"
  | .real _ => "REAL"
  | .text _ => "TEXT"
  | .blob _ => "BLOB"

/-! ## Order -/

/-- The place of a number among all: infinities outside, finite ones by their value in ticks. -/
def numberKey : Stored → Int × Int
  | .integer i => (0, i.toInt * Double.ticksPerUnit)
  | .real (.finite x) => (0, x.value)
  | .real (.infinite negative) => (if negative then -1 else 1, 0)
  | _ => (0, 0)

def rank : Stored → Nat
  | .null => 0
  | .integer _ | .real _ => 1
  | .text _ => 2
  | .blob _ => 3

def compare (a b : Stored) : Ordering :=
  match a, b with
  | .text s, .text t => Ord.compare s t
  | .blob s, .blob t => Ord.compare s t
  | a, b =>
    if a.rank ≠ b.rank then Ord.compare a.rank b.rank
    else (Ord.compare a.numberKey.1 b.numberKey.1).then (Ord.compare a.numberKey.2 b.numberKey.2)

/-! ## Numbers and their texts -/

/-- The integer that a double is, if it is one well inside 64 bits. -/
def wholeValue? : Double → Option Int64
  | .finite x =>
    let i := x.value / Double.ticksPerUnit
    let isInside := -0x8000000000000000 < i ∧ i < 0x8000000000000000 - 1
    if x.value % Double.ticksPerUnit = 0 ∧ isInside then some (Int64.ofInt i) else none
  | _ => none

/-- A real number as an integer where it is one. -/
def whole (x : Double) : Stored :=
  match wholeValue? x with
  | some i => .integer i
  | none => .real x

def isSpace (c : Char) : Bool := c = ' ' || (9 ≤ c.toNat && c.toNat ≤ 13)

/-- The number that a text writes, spaces around it allowed. -/
def numberOfText? (s : String) : Option Stored :=
  let cs := ((s.toList.dropWhile isSpace).reverse.dropWhile isSpace).reverse
  match Text.readInt? cs with
  | some i =>
    if -0x8000000000000000 ≤ i ∧ i < 0x8000000000000000 then some (.integer (Int64.ofInt i))
    else some (.real (Double.ofInt i))
  | none =>
    let read (negative : Bool) (cs : List Char) : Option Stored :=
      (Double.readDecimal? cs).map fun d => whole (Double.ofDecimal negative d)
    match cs with
    | '-' :: cs => read true cs
    | '+' :: cs => read false cs
    | cs => read false cs

/-- The digits of a double to 15 places, positional from 10^-4 to below 10^15. -/
def realDigits (x : Double.Finite) : List Char :=
  let d := Double.stripZeros 2000 (((x.neighbours .up 15).head?).getD ⟨0, 0⟩)
  let word := Text.natDigits d.digits
  let exponent : Int := d.exponent + word.length - 1
  if d.digits = 0 then ['0', '.', '0']
  else if exponent < -4 ∨ 14 < exponent then
    let mantissa := word.take 1 ++ '.' :: (if word.length = 1 then ['0'] else word.drop 1)
    mantissa ++ (if exponent < 0 then ['e', '-'] else ['e', '+']) ++ Text.paddedDigits 2 exponent.natAbs
  else
    let plain := Double.plainDigits d
    if plain.contains '.' then plain else plain ++ ['.', '0']

/-- A value as a number where it writes one, and as an integer where it is one. -/
def asNumber : Stored → Stored
  | .text s => (numberOfText? s).getD (.text s)
  | .real x => whole x
  | v => v

/-- What the first byte of a character adds to its number. -/
def leadBits (b : UInt8) : Nat :=
  if b < 0xE0 then b.toNat - 0xC0
  else if b < 0xF0 then b.toNat - 0xE0
  else if b < 0xF8 then b.toNat - 0xF0
  else if b < 0xFC then b.toNat - 0xF8
  else if b < 0xFE then b.toNat - 0xFC
  else 0

/-- Bytes taken for UTF-8 whether they are or not. A byte that follows on nothing is a character by itself, and
what comes out as no character, or written longer than it need be, is the replacement character. -/
def looseText : List UInt8 → List Char
  | [] => []
  | b :: bs =>
    if b < 0xC0 then Char.ofNat b.toNat :: looseText bs
    else
      let tail := bs.takeWhile fun c => 0x80 ≤ c && c < 0xC0
      let n := tail.foldl (fun n c => n * 64 + (c.toNat - 0x80)) (leadBits b)
      (if n < 0x80 || !n.isValidChar || n % 0x10000 / 2 = 0x7FFF && n < 0x10000 then '\uFFFD' else Char.ofNat n)
        :: looseText (bs.drop tail.length)
termination_by bs => bs.length

/-- The characters of a value as text; null has none. -/
def chars? : Stored → Option (List Char)
  | .null => none
  | .integer i => some (Text.intText i.toInt).toList
  | .real (.finite x) => some (Double.signed (x.negative && x.rank != 0) (realDigits x))
  | .real (.infinite negative) => some (if negative then "-Inf" else "Inf").toList
  | .real .nan => none
  | .text s => some s.toList
  | .blob bytes => some (looseText bytes)

/-- A number as text. -/
def asText : Stored → Stored
  | .blob bytes => .blob bytes
  | v => (v.chars?.map fun cs => .text (String.ofList cs)).getD v

end Stored

/-! ## Affinity -/

inductive Affinity where
  | unchanged | text | numeric | real
  deriving DecidableEq

namespace Affinity

/-- The word stands somewhere in the text. -/
def occurs (word : List Char) : List Char → Bool
  | [] => word.isEmpty
  | c :: cs => word.isPrefixOf (c :: cs) || occurs word cs

/-- The affinity of a column with a type of these words. -/
def ofTypeName (name : String) : Affinity :=
  let cs := (Identifier.upper name).toList
  let has (words : List String) : Bool := words.any fun w => occurs w.toList cs
  if has ["INT"] then .numeric
  else if has ["CHAR", "CLOB", "TEXT"] then .text
  else if has ["BLOB"] || cs.isEmpty then .unchanged
  else if has ["REAL", "FLOA", "DOUB"] then .real
  else .numeric

/-- A value of the class that suits the affinity, where it has one. -/
def apply : Affinity → Stored → Stored
  | .unchanged, v => v
  | .text, v => v.asText
  | .numeric, v => v.asNumber
  | .real, v =>
    match v.asNumber with
    | .integer i => .real (Double.ofInt i.toInt)
    | v => v

/-- What a value is compared as with a column of the affinity. -/
def forComparison : Affinity → Stored → Stored
  | .unchanged, v => v
  | .text, v => v.asText
  | _, v => v.asNumber

end Affinity

end TypedStorage.Engine
