/-
Decimal numbers and doubles. `ofDecimal` is the double nearest to a decimal number. `shortest` is the other
way: the fewest digits that `ofDecimal` takes back to the same double, the nearer of two such words of
digits, and of two equally near ones the one that the given rule picks. The exact decimal expansion stands
in should no word of up to 17 digits read back, so the result reads back by construction.
-/
import TypedStorage.Double.Basic
import TypedStorage.Text.Digits

namespace TypedStorage

/-- The number digits · 10^exponent. -/
structure Decimal where
  digits : Nat
  exponent : Int
  deriving DecidableEq

namespace Double

/-- Which of two equally near neighbours is taken. -/
inductive Tie where
  | up
  | toEven
  deriving DecidableEq

/--
The double nearest to a decimal number. Beyond 10^310 all is infinite and below 10^-330 all is zero, so
powers of ten stay small.
-/
def ofDecimal (negative : Bool) (d : Decimal) : Double :=
  let size := (Text.natDigits d.digits).length + d.exponent
  if d.digits = 0 then zero negative
  else if 310 < size then .infinite negative
  else if size < -330 then zero negative
  else if 0 ≤ d.exponent then ofRatio negative (d.digits * Nat.pow 10 d.exponent.toNat) 1
  else ofRatio negative d.digits (Nat.pow 10 (-d.exponent).toNat)

/-- The exact value: one tick is 5^1074 · 10^-1074. -/
def Finite.exact (x : Finite) : Decimal := ⟨x.magnitude * Nat.pow 5 1074, -1074⟩

/-- Moves trailing zeros into the exponent, at most `fuel` of them. -/
def stripZeros : Nat → Decimal → Decimal
  | 0, d => d
  | fuel + 1, d => if d.digits % 10 = 0 ∧ d.digits ≠ 0 then stripZeros fuel ⟨d.digits / 10, d.exponent + 1⟩ else d

/-- The neighbours of the value among the numbers of `count` digits, the preferred one first. -/
def Finite.neighbours (x : Finite) (tie : Tie) (count : Nat) : List Decimal :=
  let whole := x.exact.digits
  let length := (Text.natDigits whole).length
  if length ≤ count then [x.exact]
  else
    let grid := Nat.pow 10 (length - count)
    let exponent : Int := (length : Int) - count - 1074
    let low := whole / grid
    let below : Decimal := ⟨low, exponent⟩
    let above : Decimal := ⟨low + 1, exponent⟩
    let middle := (2 * low + 1) * grid
    if 2 * whole < middle then [below, above]
    else if middle < 2 * whole then [above, below]
    else match tie with
      | .up => [above, below]
      | .toEven => if low % 2 = 0 then [below, above] else [above, below]

/-- Whether a decimal number is nearest to this double. -/
def Finite.readsBack (x : Finite) (d : Decimal) : Bool := ofDecimal x.negative d = .finite x

/-- The first that reads back among the neighbours with `count` digits, `count + 1` digits, …. -/
def Finite.search (x : Finite) (tie : Tie) : (more count : Nat) → Option Decimal
  | 0, _ => none
  | more + 1, count => ((x.neighbours tie count).find? x.readsBack).or (x.search tie more (count + 1))

/-- The shortest decimal number that reads back; zero is no digits at all but a plain 0. -/
def Finite.shortest (x : Finite) (tie : Tie) : Decimal :=
  if x.rank = 0 then ⟨0, 0⟩ else stripZeros 2000 ((x.search tie 17 1).getD x.exact)

end Double

end TypedStorage
