/-
Double-precision numbers by meaning. A finite double is a sign and a rank: the doubles of one sign, ordered
by magnitude from zero up, are numbered 0, 1, 2, …, so the successor of a double is the next rank, and the
parity of the rank is the parity of the significand. Magnitudes are whole numbers of ticks, a tick being
2^-1074, the smallest positive double; rounding is done on exact fractions of ticks. There is one NaN.
-/
namespace TypedStorage

namespace Double

/-- 2^52, the number of doubles between two powers of two. -/
def binade : Nat := 0x10000000000000

/-- The number of finite magnitudes; the rank after the last one is infinity. -/
def rankCount : Nat := 2047 * binade

/-- A finite double. -/
structure Finite where
  negative : Bool
  rank : Nat
  rank_lt : rank < rankCount
  deriving DecidableEq

end Double

inductive Double where
  | nan
  | infinite (negative : Bool)
  | finite (x : Double.Finite)
  deriving DecidableEq

namespace Double

/-- The magnitude of a rank, in ticks. -/
def ticks (rank : Nat) : Nat :=
  if rank < binade then rank else (binade + rank % binade) * Nat.pow 2 (rank / binade - 1)

/-- The magnitude of a finite double, in ticks. -/
def Finite.magnitude (x : Finite) : Nat := ticks x.rank

/-- The quotient as a whole number, the nearer one, the even one of two that are equally near. -/
def roundHalfEven (num den : Nat) : Nat :=
  let q := num / den
  let twice := 2 * (num % den)
  if twice < den then q
  else if den < twice then q + 1
  else if q % 2 = 0 then q else q + 1

/--
The rank whose magnitude is nearest to `num / den` ticks, an even rank where two are equally near. The
significand keeps 53 bits, fewer below 2^53 ticks, where every whole number of ticks is a double.
-/
def nearestRank (num den : Nat) : Nat :=
  let shift := (num / den).log2 - 52
  shift * binade + roundHalfEven num (den * Nat.pow 2 shift)

/-- A rank with a sign; ranks past the finite ones are infinity. -/
def ofRank (negative : Bool) (rank : Nat) : Double :=
  if h : rank < rankCount then .finite ⟨negative, rank, h⟩ else .infinite negative

/-- 2^1074, the number of ticks in one. -/
def ticksPerUnit : Nat := Nat.pow 2 1074

/-- The double nearest to `num / den`. -/
def ofRatio (negative : Bool) (num den : Nat) : Double :=
  ofRank negative (nearestRank (num * ticksPerUnit) den)

/-- The double nearest to an integer. -/
def ofInt (i : Int) : Double := ofRatio (i < 0) i.natAbs 1

def zero (negative : Bool) : Double := .finite ⟨negative, 0, by decide⟩

def negate : Double → Double
  | .nan => .nan
  | .infinite n => .infinite !n
  | .finite x => .finite { x with negative := !x.negative }

/-! ## The interchange format -/

/-- Sign bit, then exponent and fraction, which together are the rank. -/
def toBits : Double → UInt64
  | .nan => 0x7ff8000000000000
  | .infinite n => UInt64.ofNat ((if n then 0x8000000000000000 else 0) + rankCount)
  | .finite x => UInt64.ofNat ((if x.negative then 0x8000000000000000 else 0) + x.rank)

/-- Every pattern above infinity is the one NaN. -/
def ofBits (bits : UInt64) : Double :=
  let negative := decide (0x8000000000000000 ≤ bits.toNat)
  let rank := bits.toNat % 0x8000000000000000
  if rankCount < rank then .nan else ofRank negative rank

/--
A single-precision number, which is a double as well: 23 bits of fraction, 8 of exponent. The smallest
single is 2^925 ticks.
-/
def ofSingleBits (bits : UInt32) : Double :=
  let negative := decide (0x80000000 ≤ bits.toNat)
  let rank := bits.toNat % 0x80000000
  if 0x7f800000 < rank then .nan
  else if rank = 0x7f800000 then .infinite negative
  else
    let single := if rank < 0x800000 then rank else (0x800000 + rank % 0x800000) * Nat.pow 2 (rank / 0x800000 - 1)
    ofRank negative (nearestRank (single * Nat.pow 2 925) 1)

/-! ## Comparison and arithmetic of values -/

/-- The value of a finite double in ticks, with its sign. -/
def Finite.value (x : Finite) : Int := if x.negative then -(x.magnitude : Int) else x.magnitude

/-- The product, rounded once. -/
def Finite.times (x y : Finite) : Double :=
  ofRatio (x.negative != y.negative) (x.magnitude * y.magnitude) (ticksPerUnit * ticksPerUnit)

/-- The quotient, rounded once; by zero it is infinite. -/
def Finite.over (x y : Finite) : Double :=
  if y.magnitude = 0 then .infinite (x.negative != y.negative)
  else ofRatio (x.negative != y.negative) x.magnitude y.magnitude

end Double

end TypedStorage
