/-
Numbers in JSON text. Digits alone are an integer when 64 bits hold it. Any other number is a double, and it
is found in two roundings: the significand keeps the leading digits that fit 64 bits, digits before the
point that do not fit only raise the exponent, digits after it are dropped; the significand as a double is
then multiplied or divided by the power of ten as a double. A number that this makes infinite is refused.
-/
import TypedStorage.Json.Basic
import TypedStorage.Double.Shortest

namespace TypedStorage.Json

open Text

/-- The parts of a number as they are written. -/
structure NumberToken where
  negative : Bool
  whole : List Char
  fraction : Option (List Char)
  exponent : Option Int

namespace NumberToken

/-- The greatest significand. -/
def significandLimit : Nat := 0x10000000000000000 - 1

/-- Appends digits to a significand as long as it fits, and says which did not. -/
def absorb : Nat → List Char → Nat × List Char
  | n, [] => (n, [])
  | n, c :: cs =>
    let next := 10 * n + (c.toNat - '0'.toNat)
    if significandLimit < next then (n, c :: cs) else absorb next cs

/-- 10^308, the greatest power of ten that is a double. -/
def greatestPower : Nat := 308

/-- The double nearest to a power of ten. -/
def powerOfTen (e : Nat) : Double := Double.ofDecimal false ⟨1, e⟩

def timesPower (f : Double.Finite) (e : Nat) : Option Double.Finite :=
  match powerOfTen e with
  | .finite p => match f.times p with
    | .finite x => some x
    | _ => none
  | _ => none

def overPower (f : Double.Finite) (e : Nat) : Option Double.Finite :=
  match powerOfTen e with
  | .finite p => match f.over p with
    | .finite x => some x
    | _ => none
  | _ => none

/--
The double times a power of ten. An exponent below −308 is taken in steps of 308; after a few of them every
significand is zero, which `fuel` counts.
-/
def scale : Nat → Double.Finite → Int → Option Double.Finite
  | 0, f, _ => some f
  | fuel + 1, f, e =>
    if e.natAbs ≤ greatestPower then if 0 ≤ e then timesPower f e.natAbs else overPower f e.natAbs
    else if f.rank = 0 then some f
    else if 0 ≤ e then none
    else (overPower f greatestPower).bind fun g => scale fuel g (e + greatestPower)

def toDouble? (t : NumberToken) : Option Double.Finite :=
  let (significand, dropped) := absorb 0 t.whole
  let (significand, rest) := absorb significand (t.fraction.getD [])
  let places := (t.fraction.getD []).length - rest.length
  let e : Int := t.exponent.getD 0 + dropped.length - places
  match Double.ofInt significand with
  | .finite f => (scale 4 f e).map fun x => { x with negative := t.negative }
  | _ => none

/-- The number a token stands for; a minus zero is a double. -/
def number? (t : NumberToken) : Option Number :=
  let n := digitsValue t.whole
  let i : Int := if t.negative then -(n : Int) else n
  if h : (t.fraction.isNone ∧ t.exponent.isNone ∧ ¬(t.negative ∧ n = 0)) ∧ -0x8000000000000000 ≤ i ∧ i < 0x10000000000000000 then
    some (.int i h.2)
  else t.toDouble?.map .double

end NumberToken

end TypedStorage.Json
