/-!
# Binary64 numbers

A binary64 number is held as its bit pattern and read in exact integers. Every
finite one is a whole multiple of `2 ^ (-1074)`, the smallest positive of them,
so its size is a natural number of such *units*, and no fraction is needed to
compare, to truncate or to round.

* `Binary64.units`: the size of a finite number in units of `2 ^ (-1074)`.
* `Binary64.ofRatio`: the number nearest to a quotient of two naturals, a tie
  going to the even neighbour, and past the largest finite one to infinity.
* `Binary64.toInt64`: the whole part, clamped to the 64-bit range, with nothing
  for a number where there is no number.

The patterns of non-negative numbers are ordered as the numbers are. That is
what makes rounding short: a significand that rounds up out of its binade
carries into the exponent field by plain addition.
-/

namespace SqlProbe

/-- A binary64 number, held as its bit pattern. -/
structure Binary64 where
  /-- The 64 bits, sign first. -/
  bits : UInt64
deriving DecidableEq, Repr

namespace Binary64

/-! ### The fields of a pattern -/

/-- The weight of the sign bit. -/
def signWeight : Nat := 0x8000000000000000

/-- The weight of the exponent field, and the number of fractions below it. -/
def exponentWeight : Nat := 0x10000000000000

/-- The pattern of positive infinity, past every finite size. -/
def infinityRank : Nat := 2047 * exponentWeight

/-- How many units a number of size one holds. -/
def one : Nat := Nat.pow 2 1074

/-- Whether the sign bit is set; of the two zeros one has it. -/
def isNegative (x : Binary64) : Bool := signWeight ≤ x.bits.toNat

/-- The pattern without its sign: the place of the size in the order of sizes. -/
def rank (x : Binary64) : Nat := x.bits.toNat % signWeight

/-- Whether the pattern stands for no number. -/
def isNaN (x : Binary64) : Bool := infinityRank < x.rank

/-- Whether the pattern stands for one of the two infinities. -/
def isInfinite (x : Binary64) : Bool := x.rank == infinityRank

/-- Whether the pattern stands for a finite number. -/
def isFinite (x : Binary64) : Bool := x.rank < infinityRank

/-- The significand and the power of two that a rank below infinity stands
for: the size is `significand * 2 ^ shift` units. -/
def decode (rank : Nat) : Nat × Nat :=
  let exponent := rank / exponentWeight
  let fraction := rank % exponentWeight
  if exponent = 0 then (fraction, 0) else (exponentWeight + fraction, exponent - 1)

/-- The size of a finite number, in units of `2 ^ (-1074)`. -/
def units (x : Binary64) : Nat :=
  let (significand, shift) := decode x.rank
  significand * Nat.pow 2 shift

/-- A finite number as a whole count of units, with its sign. -/
def value (x : Binary64) : Int :=
  if x.isNegative then -(x.units : Int) else (x.units : Int)

/-- The number with the given sign and rank. -/
def ofRank (negative : Bool) (rank : Nat) : Binary64 :=
  ⟨UInt64.ofNat (if negative then signWeight + rank else rank)⟩

/-- Zero with the given sign. -/
def zero (negative : Bool) : Binary64 := ofRank negative 0

/-- Infinity with the given sign. -/
def infinity (negative : Bool) : Binary64 := ofRank negative infinityRank

/-- The pattern that stands for no number. -/
def nan : Binary64 := ofRank false (infinityRank + exponentWeight / 2)

/-! ### Rounding to nearest -/

/-- The quotient rounded to the nearest natural, a tie to the even one. -/
def roundHalfEven (num den : Nat) : Nat :=
  let q := num / den
  let r := num % den
  if 2 * r < den then q
  else if den < 2 * r then q + 1
  else q + q % 2

/-- The rank of the size nearest to `num / den`, a tie to the even rank. The
quotient of units is cut to the 53 bits of a significand by a power of two, and
what rounding adds is carried through the fields by addition. -/
def nearestRank (num den : Nat) : Nat :=
  let whole := num * one / den
  let shift := if whole < 2 * exponentWeight then 0 else whole.log2 - 52
  let rank := shift * exponentWeight + roundHalfEven (num * one) (den * Nat.pow 2 shift)
  min rank infinityRank

/-- The number nearest to `num / den` with the given sign, for a positive
`den`. -/
def ofRatio (negative : Bool) (num den : Nat) : Binary64 :=
  ofRank negative (nearestRank num den)

/-- The number nearest to a natural. -/
def ofNat (negative : Bool) (n : Nat) : Binary64 :=
  ofRatio negative n 1

/-! ### The whole part -/

/-- The whole part of a finite number: truncation toward zero. -/
def truncate (x : Binary64) : Int :=
  x.value.tdiv one

/-- The whole part as a 64-bit integer. What lies outside the 64-bit range,
the infinities included, goes to the nearer end of it; where there is no number
the answer is zero. -/
def toInt64 (x : Binary64) : Int64 :=
  if x.isNaN then 0
  else if x.isInfinite then (if x.isNegative then Int64.minValue else Int64.maxValue)
  else Int64.ofIntClamp x.truncate

/-! ### Patterns at the edges -/

example : ofNat false 1 = ⟨0x3FF0000000000000⟩ := by decide +kernel
example : ofRatio true 0 1 = ⟨0x8000000000000000⟩ := by decide +kernel
example : ofNat false (2 ^ 53 + 1) = ofNat false (2 ^ 53) := by decide +kernel
example : ofNat false (2 ^ 1024 - 2 ^ 970) = infinity false := by decide +kernel
example : (ofRatio false 1 (2 ^ 1074)).bits = 1 := by decide +kernel
example : (ofRatio false 1 (2 ^ 1075)).bits = 0 := by decide +kernel
example : (ofRatio true 19 10).toInt64 = -1 := by decide +kernel
example : nan.toInt64 = 0 ∧ (infinity true).toInt64 = Int64.minValue := by decide +kernel

end Binary64

end SqlProbe
